import DeepKernel.Lib.CopyOnWrite
import DeepKernel.Server.Ingest

/-!
# Event queries

`EventRepository` and the two endpoints of `EventsQueryController`, which pass their limit on as it is.
`byContainer` collects the events of the container in a list of its own; `latest` returns a view of the
events themselves, which does not survive the next change. The answers are the last events only for the
limits of `GoodLimit`, and that of `latest` only while nothing is saved (`servedLatest_iff`).
-/

set_option autoImplicit false

namespace DeepKernel.Server

open DeepKernel.Lib

variable {R : Type}

/-! ## The repository -/

/-- `EventRepository`. -/
structure EventRepository (R : Type) where
  events : CopyOnWriteArrayList (LiveEvent R)

namespace EventRepository

/-- A new repository. -/
def init : EventRepository R := ⟨CopyOnWriteArrayList.empty⟩

/-- `save`. -/
def save (repo : EventRepository R) (event : LiveEvent R) : EventRepository R :=
  ⟨repo.events.add event⟩

/-- `latest`. -/
def latest (repo : EventRepository R) (limit : Int32) : Except ListError SubListView :=
  repo.events.subList (suffixIndex (javaSize repo.events.array) limit)
    (javaSize repo.events.array)

/-- The events of a container. -/
def filtered (repo : EventRepository R) (containerId : String) : List (LiveEvent R) :=
  repo.events.array.filter fun e => containerId == e.containerId

/-- `byContainer`. -/
def byContainer (repo : EventRepository R) (containerId : String) (limit : Int32) :
    Except ListError (List (LiveEvent R)) :=
  let filtered := repo.filtered containerId
  subList filtered (suffixIndex (javaSize filtered) limit) (javaSize filtered)

/-- `clearAll`, with the number of events that it has cleared. -/
def clearAll (repo : EventRepository R) : EventRepository R × Int32 :=
  (⟨repo.events.clear⟩, javaSize repo.events.array)

end EventRepository

/-- A change of the repository. -/
inductive EventChange (R : Type)
  | save (event : LiveEvent R)
  | clearAll
  deriving DecidableEq

namespace EventRepository

/-- The repository after a change. -/
def change (repo : EventRepository R) : EventChange R → EventRepository R
  | .save event => repo.save event
  | .clearAll => repo.clearAll.1

/-- The repository after some changes. -/
def changeAll (repo : EventRepository R) (changes : List (EventChange R)) : EventRepository R :=
  changes.foldl change repo

theorem version_change (repo : EventRepository R) (c : EventChange R) :
    (repo.change c).events.version = repo.events.version + 1 := by
  cases c with
  | save event => rfl
  | clearAll => rfl

/-- Every change makes a new array. -/
theorem version_changeAll (repo : EventRepository R) (changes : List (EventChange R)) :
    (repo.changeAll changes).events.version = repo.events.version + changes.length := by
  induction changes generalizing repo with
  | nil => rfl
  | cons c changes ih =>
      have hcons : repo.changeAll (c :: changes) = (repo.change c).changeAll changes := rfl
      rw [hcons, ih, version_change, List.length_cons]
      omega

/-- The events that were saved, if nothing was cleared. -/
theorem array_changeAll_saves (repo : EventRepository R) (events : List (LiveEvent R)) :
    (repo.changeAll (events.map .save)).events.array = repo.events.array ++ events := by
  induction events generalizing repo with
  | nil => exact (List.append_nil _).symm
  | cons event events ih =>
      have hcons : repo.changeAll ((event :: events).map .save) =
          (repo.save event).changeAll (events.map .save) := rfl
      have harray : (repo.save event).events.array = repo.events.array ++ [event] := rfl
      rw [hcons, ih, harray, List.append_assoc, List.singleton_append]

end EventRepository

/-! ## The endpoints -/

/-- The body of an answer of `latest`: the view is read after some more changes. -/
def servedLatest (repo : EventRepository R) (limit : Int32) (later : List (EventChange R)) :
    Except ListError (List (LiveEvent R)) :=
  (repo.latest limit).bind fun view => view.read (repo.changeAll later).events

/-- The body of an answer of `byContainer`, a list that the changes do not reach. -/
def servedByContainer (repo : EventRepository R) (containerId : String) (limit : Int32)
    (_later : List (EventChange R)) : Except ListError (List (LiveEvent R)) :=
  repo.byContainer containerId limit

/-- Both answers are the last events at the time of the call. -/
structure ServesLast (repo : EventRepository R) (containerId : String) (limit : Int32)
    (later : List (EventChange R)) : Prop where
  latest : servedLatest repo limit later = .ok (lastOf limit repo.events.array)
  byContainer : servedByContainer repo containerId limit later =
    .ok (lastOf limit (repo.filtered containerId))

theorem servedLatest_iff {repo : EventRepository R} (hsize : repo.events.array.length < 2 ^ 31)
    (limit : Int32) (later : List (EventChange R)) :
    servedLatest repo limit later = .ok (lastOf limit repo.events.array) ↔
      later = [] ∧ GoodLimit limit repo.events.array := by
  have hversion := repo.version_changeAll later
  have hlater : (repo.changeAll later).events.version = repo.events.version ↔ later = [] := by
    rw [hversion, ← List.length_eq_zero_iff]
    omega
  rw [servedLatest, EventRepository.latest, view_suffix_iff hsize, hlater]
  intro hsame
  rw [hlater.1 hsame]
  rfl

theorem servedByContainer_iff {repo : EventRepository R}
    (hsize : repo.events.array.length < 2 ^ 31) (containerId : String) (limit : Int32)
    (later : List (EventChange R)) :
    servedByContainer repo containerId limit later =
        .ok (lastOf limit (repo.filtered containerId)) ↔
      GoodLimit limit (repo.filtered containerId) := by
  have hlen : (repo.filtered containerId).length < 2 ^ 31 :=
    (List.length_filter_le _ _).trans_lt hsize
  exact subList_suffix_iff hlen limit

/-- The answers to queries in a repository after any changes, whose events are those saved if none were
cleared; a Java list has fewer than `2 ^ 31` elements. A limit must not be negative, but for the
smallest integer and an empty repository, and the view of `latest` has to be read before the next
change. -/
theorem served_iff (before later : List (EventChange R)) (containerId : String) (limit : Int32)
    (hsize : (EventRepository.init.changeAll before).events.array.length < 2 ^ 31) :
    (∀ saved : List (LiveEvent R), before = saved.map .save →
      (EventRepository.init.changeAll before).events.array = saved) ∧
    (ServesLast (EventRepository.init.changeAll before) containerId limit later ↔
      later = [] ∧
        GoodLimit limit (EventRepository.init.changeAll before).events.array) ∧
    (servedByContainer (EventRepository.init.changeAll before) containerId limit later =
        .ok (lastOf limit ((EventRepository.init.changeAll before).filtered containerId)) ↔
      GoodLimit limit ((EventRepository.init.changeAll before).filtered containerId)) := by
  have hcontainer := servedByContainer_iff hsize containerId limit later
  refine ⟨?_, ?_, hcontainer⟩
  · rintro saved rfl
    exact EventRepository.array_changeAll_saves EventRepository.init saved
  constructor
  · intro h
    exact (servedLatest_iff hsize limit later).1 h.latest
  · intro h
    refine ⟨(servedLatest_iff hsize limit later).2 h, hcontainer.2 (h.2.imp id fun hempty => ?_)⟩
    -- no events at all, and so none of the container
    rw [EventRepository.filtered, hempty.2]
    exact ⟨hempty.1, rfl⟩

/-- An event of a container. -/
def exampleEvent (timestamp : Int) : LiveEvent ℚ where
  containerId := "web"
  timestamp := timestamp
  payload := .windowScored (1 / 2) false 100

/-- Two saved events and the default limit. -/
theorem two_events_served :
    ServesLast (EventRepository.init.changeAll [.save (exampleEvent 1), .save (exampleEvent 2)])
      "web" 100 [] :=
  (served_iff [.save (exampleEvent 1), .save (exampleEvent 2)] [] "web" 100
    (by decide : (2 : Nat) < 2 ^ 31)).2.1.2 ⟨rfl, .inl (by decide)⟩

/-- One event and the limit -1, for which both queries throw; and the default limit with an event that
is saved before the answer is written. -/
theorem served_fails :
    (servedLatest (EventRepository.init.changeAll [.save (exampleEvent 1)]) (-1) [] =
        .error .indexOutOfBounds ∧
      servedByContainer (EventRepository.init.changeAll [.save (exampleEvent 1)]) "web" (-1) [] =
        .error .illegalArgument) ∧
    servedLatest (EventRepository.init.changeAll [.save (exampleEvent 1)]) 100
        [.save (exampleEvent 2)] = .error .concurrentModification ∧
    ¬ ServesLast (EventRepository.init.changeAll [.save (exampleEvent 1)]) "web" 100
        [.save (exampleEvent 2)] := by
  have hstale : servedLatest (EventRepository.init.changeAll [.save (exampleEvent 1)]) 100
      [.save (exampleEvent 2)] = .error .concurrentModification := rfl
  refine ⟨⟨rfl, rfl⟩, hstale, fun h => ?_⟩
  have hlatest := h.latest
  rw [hstale] at hlatest
  cases hlatest

end DeepKernel.Server
