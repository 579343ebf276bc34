import DeepKernel.Agent.JsonFields

/-!
# The two parsers of cgroup files

`DockerMapper::extractContainerHashFromCgroup` and `ContainerMapper::parseCgroup` both read
`/proc/<pid>/cgroup` line by line and try a list of patterns on every line. The lists begin with the
same two patterns and end with the same one. Between these the first parser takes any 64 hexadecimal
digits behind `kubepods`, and the second one the id of a CRI-O scope or of a path with a level for
the quality of service.

When they agree is said of the text: `PlaceKind.Place` says how a place looks that shows an id, and
`TextAgrees` which places the lines may have (`parsers_agree_iff`).
-/

set_option autoImplicit false

namespace DeepKernel.Agent

open DeepKernel.Lib

/-! ## Pattern elements -/

/-- `[a-f0-9]`. -/
def isHexDigit (b : UInt8) : Bool := (97 ≤ b && b ≤ 102) || (48 ≤ b && b ≤ 57)

/-- `[a-f0-9-]`. -/
def isUidChar (b : UInt8) : Bool := isHexDigit b || b == 45

/-- `[^/]`. -/
def isNotSlash (b : UInt8) : Bool := b != 47

/-- The group `([a-f0-9]{min,max})`. -/
def hexGroup (min max : Nat) : Item UInt8 := .run isHexDigit min (some max) false true

/-- The lines that `std::getline` reads. -/
def getLines (text : ByteString) : List ByteString :=
  let parts := text.splitOn 10
  if parts.getLast? = some [] then parts.dropLast else parts

/-! ## Patterns -/

/-- `docker`, a slash or a hyphen, and `([a-f0-9]{12,64})`. -/
def dockerPattern : Pattern UInt8 :=
  literal "docker" ++ [.one fun b => b == 47 || b == 45, hexGroup 12 64]

/-- `cri-containerd-([a-f0-9]{12,64})`. -/
def containerdPattern : Pattern UInt8 := literal "cri-containerd-" ++ [hexGroup 12 64]

/-- `crio-([a-f0-9]{12,64})`. -/
def crioPattern : Pattern UInt8 := literal "crio-" ++ [hexGroup 12 64]

/-- `libpod-([a-f0-9]{12,64})`. -/
def podmanPattern : Pattern UInt8 := literal "libpod-" ++ [hexGroup 12 64]

/-- `kubepods.*?([a-f0-9]{64})`, of the first parser. -/
def anyKubePattern : Pattern UInt8 :=
  literal "kubepods" ++ [.run isNotLineEnd 0 none true false, hexGroup 64 64]

/-- `kubepods[^/]*/[^/]*/pod([a-f0-9-]{36})`. -/
def podPattern : Pattern UInt8 :=
  literal "kubepods" ++ [.run isNotSlash 0 none false false] ++ literal "/" ++
    [.run isNotSlash 0 none false false] ++ literal "/pod" ++
    [.run isUidChar 36 (some 36) false true]

/-- `kubepods[^/]*/[^/]*/pod([a-f0-9-]{36})/([a-f0-9]{64})`, of the second parser. -/
def kubePattern : Pattern UInt8 := podPattern ++ literal "/" ++ [hexGroup 64 64]

/-! ## `DockerMapper` -/

/-- The body of the loop of `extractContainerHashFromCgroup`, `none` to go on with the next line. -/
def hashOfLine (line : ByteString) : Option ByteString :=
  match searchGroup dockerPattern 0 line with
  | some hash => some (hash.take 12)
  | none =>
    match searchGroup containerdPattern 0 line with
    | some hash => some (hash.take 12)
    | none =>
      match searchGroup anyKubePattern 0 line with
      | some hash => some (hash.take 12)
      | none => (searchGroup podmanPattern 0 line).map (·.take 12)

/-- `extractContainerHashFromCgroup` on the contents of the file, if it can be opened. -/
def extractContainerHashFromCgroup (file : Option ByteString) : ByteString :=
  match file with
  | none => []
  | some text => ((getLines text).findSome? hashOfLine).getD []

/-! ## `ContainerMapper` -/

/-- `ContainerMapper::Runtime`. -/
inductive Runtime
  | unknown
  | docker
  | containerd
  | crio
  deriving DecidableEq

/-- `ContainerMapper::CgroupInfo`. -/
structure CgroupInfo where
  containerId : ByteString := []
  podUid : ByteString := []
  runtime : Runtime := .unknown
  deriving DecidableEq

/-- The body of the loop of `parseCgroup`. -/
def infoOfLine (detectedRuntime : Runtime) (line : ByteString) : Option CgroupInfo :=
  match searchGroup dockerPattern 0 line with
  | some id => some { containerId := id, runtime := .docker }
  | none =>
    match searchGroup containerdPattern 0 line with
    | some id =>
        some { containerId := id, podUid := (searchGroup podPattern 0 line).getD []
               runtime := .containerd }
    | none =>
      match searchGroup crioPattern 0 line with
      | some id =>
          some { containerId := id, podUid := (searchGroup podPattern 0 line).getD []
                 runtime := .crio }
      | none =>
        match search kubePattern line with
        | some [uid, id] => some { containerId := id, podUid := uid, runtime := detectedRuntime }
        | _ =>
            (searchGroup podmanPattern 0 line).map fun id =>
              { containerId := id, runtime := .unknown }

/-- `parseCgroup` on the contents of the file, if it can be opened. -/
def parseCgroup (detectedRuntime : Runtime) (file : Option ByteString) : CgroupInfo :=
  match file with
  | none => {}
  | some text => ((getLines text).findSome? (infoOfLine detectedRuntime)).getD {}

/-! ## What the parsers find on a line -/

/-- The id of a pattern that both parsers try first. -/
def sharedId (line : ByteString) : Option ByteString :=
  searchGroup dockerPattern 0 line <|> searchGroup containerdPattern 0 line

/-- The id that the first parser finds on a line without such an id: 64 digits behind `kubepods`, else
a Podman id. -/
def looseId (line : ByteString) : Option ByteString :=
  searchGroup anyKubePattern 0 line <|> searchGroup podmanPattern 0 line

/-- The id that the second parser finds there: a CRI-O id, else that of a pod's path, else a Podman
id. -/
def structuredId (line : ByteString) : Option ByteString :=
  searchGroup crioPattern 0 line <|> searchGroup kubePattern 1 line <|>
    searchGroup podmanPattern 0 line

theorem hashOfLine_eq (line : ByteString) :
    hashOfLine line = (sharedId line <|> looseId line).map (·.take 12) := by
  rw [hashOfLine, sharedId, looseId]
  cases searchGroup dockerPattern 0 line with
  | some id => rfl
  | none =>
      cases searchGroup containerdPattern 0 line with
      | some id => rfl
      | none =>
          cases searchGroup anyKubePattern 0 line with
          | some id => rfl
          | none => rfl

/-- A match of the pattern of a pod's path has two groups. -/
theorem groups_kubePattern {line : ByteString} {groups : List ByteString}
    (h : search kubePattern line = some groups) :
    ∃ uid id, groups = [uid, id] ∧ uid.length = 36 ∧ id.length = 64 := by
  have hfits := fitsGroups_of_search h
  obtain ⟨uid, rest, rfl, hmin, hmax, -, id, rest', rfl, hmin', hmax', -, rfl⟩ := hfits
  exact ⟨uid, id, rfl, le_antisymm (hmax 36 rfl) hmin, le_antisymm (hmax' 64 rfl) hmin'⟩

theorem containerId_infoOfLine (detectedRuntime : Runtime) (line : ByteString) :
    (infoOfLine detectedRuntime line).map CgroupInfo.containerId =
      (sharedId line <|> structuredId line) := by
  have hkube : searchGroup kubePattern 1 line =
      (search kubePattern line).bind fun groups => groups[1]? := rfl
  -- the patterns are tried in one order by both; the two groups of a pod are the uid and the id
  rw [infoOfLine, sharedId, structuredId, hkube]
  cases searchGroup dockerPattern 0 line with
  | some id => rfl
  | none =>
      cases searchGroup containerdPattern 0 line with
      | some id => rfl
      | none =>
          cases searchGroup crioPattern 0 line with
          | some id => rfl
          | none =>
              cases hsearch : search kubePattern line with
              | none =>
                  cases searchGroup podmanPattern 0 line with
                  | none => rfl
                  | some id => rfl
              | some groups =>
                  obtain ⟨uid, id, rfl, -, -⟩ := groups_kubePattern hsearch
                  rfl

theorem length_sharedId {line id : ByteString} (h : sharedId line = some id) : 12 ≤ id.length := by
  rcases (Option.orElse_eq_some _ _ _).1 h with h | ⟨-, h⟩
  · refine length_searchGroup (fun groups hfits => ?_) h
    obtain ⟨g, rest, rfl, hmin, -, -, rfl⟩ := hfits
    exact ⟨g, rfl, hmin⟩
  · refine length_searchGroup (fun groups hfits => ?_) h
    obtain ⟨g, rest, rfl, hmin, -, -, rfl⟩ := hfits
    exact ⟨g, rfl, hmin⟩

theorem length_podmanId {line id : ByteString} (h : searchGroup podmanPattern 0 line = some id) :
    12 ≤ id.length := by
  refine length_searchGroup (fun groups hfits => ?_) h
  obtain ⟨g, rest, rfl, hmin, -, -, rfl⟩ := hfits
  exact ⟨g, rfl, hmin⟩

theorem length_looseId {line id : ByteString} (h : looseId line = some id) : 12 ≤ id.length := by
  rcases (Option.orElse_eq_some _ _ _).1 h with h | ⟨-, h⟩
  · have hlen : 64 ≤ id.length := by
      refine length_searchGroup (fun groups hfits => ?_) h
      obtain ⟨g, rest, rfl, hmin, -, -, rfl⟩ := hfits
      exact ⟨g, rfl, hmin⟩
    omega
  · exact length_podmanId h

theorem length_structuredId {line id : ByteString} (h : structuredId line = some id) :
    12 ≤ id.length := by
  rcases (Option.orElse_eq_some _ _ _).1 h with h | ⟨-, h⟩
  · refine length_searchGroup (fun groups hfits => ?_) h
    obtain ⟨g, rest, rfl, hmin, -, -, rfl⟩ := hfits
    exact ⟨g, rfl, hmin⟩
  · rcases (Option.orElse_eq_some _ _ _).1 h with h | ⟨-, h⟩
    · obtain ⟨groups, hsearch, hgroup⟩ := Option.bind_eq_some_iff.1 h
      obtain ⟨uid, id', rfl, -, hlen⟩ := groups_kubePattern hsearch
      have hid : id' = id := Option.some.inj hgroup
      rw [← hid, hlen]
      decide
    · exact length_podmanId h

/-! ## When the parsers agree -/

/-- The id that the first parser takes from the lines. -/
def firstLoose (lines : List ByteString) : Option ByteString :=
  lines.findSome? fun line => sharedId line <|> looseId line

/-- The id that the second parser takes from the lines. -/
def firstStructured (lines : List ByteString) : Option ByteString :=
  lines.findSome? fun line => sharedId line <|> structuredId line

/-- The hash stands for the container with the id. -/
def SameContainer (hash containerId : ByteString) : Prop :=
  (hash ≠ [] ↔ containerId ≠ []) ∧ (hash ≠ [] → hash = containerId.take 12)

theorem extract_eq (text : ByteString) :
    extractContainerHashFromCgroup (some text) =
      ((firstLoose (getLines text)).map (·.take 12)).getD [] := by
  have hfind : (getLines text).findSome? hashOfLine =
      (firstLoose (getLines text)).map (·.take 12) := by
    rw [firstLoose, List.map_findSome?]
    exact congrArg (fun f => (getLines text).findSome? f) (funext hashOfLine_eq)
  rw [extractContainerHashFromCgroup, hfind]

theorem parse_eq (detectedRuntime : Runtime) (text : ByteString) :
    (parseCgroup detectedRuntime (some text)).containerId =
      (firstStructured (getLines text)).getD [] := by
  have hfind : firstStructured (getLines text) =
      ((getLines text).findSome? (infoOfLine detectedRuntime)).map CgroupInfo.containerId := by
    rw [firstStructured, List.map_findSome?]
    exact congrArg (fun f => (getLines text).findSome? f)
      (funext fun line => (containerId_infoOfLine detectedRuntime line).symm)
  rw [parseCgroup, hfind]
  cases (getLines text).findSome? (infoOfLine detectedRuntime) with
  | none => rfl
  | some info => rfl

theorem length_firstLoose {lines : List ByteString} {id : ByteString}
    (h : firstLoose lines = some id) : 12 ≤ id.length := by
  obtain ⟨line, -, hline⟩ := List.exists_of_findSome?_eq_some h
  rcases (Option.orElse_eq_some _ _ _).1 hline with hline | ⟨-, hline⟩
  · exact length_sharedId hline
  · exact length_looseId hline

theorem length_firstStructured {lines : List ByteString} {id : ByteString}
    (h : firstStructured lines = some id) : 12 ≤ id.length := by
  obtain ⟨line, -, hline⟩ := List.exists_of_findSome?_eq_some h
  rcases (Option.orElse_eq_some _ _ _).1 hline with hline | ⟨-, hline⟩
  · exact length_sharedId hline
  · exact length_structuredId hline

/-- Since ids are not empty, the parsers agree exactly if they take the same twelve digits. -/
theorem sameContainer_iff (lines : List ByteString) :
    SameContainer (((firstLoose lines).map (·.take 12)).getD []) ((firstStructured lines).getD []) ↔
      (firstLoose lines).map (·.take 12) = (firstStructured lines).map (·.take 12) := by
  -- an id that was found is long enough for its first twelve bytes not to be empty
  have hne : ∀ id : ByteString, 12 ≤ id.length → id ≠ [] ∧ id.take 12 ≠ [] := by
    intro id hid
    have hpos : id ≠ [] := List.ne_nil_of_length_pos (by omega)
    refine ⟨hpos, fun hnil => hpos ?_⟩
    rcases List.take_eq_nil_iff.1 hnil with h | h
    · cases h
    · exact h
  rw [SameContainer]
  cases hloose : firstLoose lines with
  | none =>
      cases hstructured : firstStructured lines with
      | none => simp
      | some id => simp [(hne id (length_firstStructured hstructured)).1]
  | some hash =>
      have hhash := (hne hash (length_firstLoose hloose)).2
      cases hstructured : firstStructured lines with
      | none => simpa using hhash
      | some id =>
          have hid := (hne id (length_firstStructured hstructured)).1
          simp [hhash, hid]

/-! ## Places in a line -/

/-- A text of so many hexadecimal digits. -/
structure HexDigits (n : Nat) (text : ByteString) : Prop where
  length_eq : text.length = n
  hex : ∀ b ∈ text, isHexDigit b = true

/-- The kinds of places that show an id. -/
inductive PlaceKind
  | docker
  | containerd
  | kubepods
  | crio
  | podPath
  | podman
  deriving DecidableEq

/-- The text begins with a tag and twelve digits. -/
def Tagged (tags : List ByteString) (t digits : ByteString) : Prop :=
  ∃ tag ∈ tags, ∃ rest, t = tag ++ (digits ++ rest) ∧ HexDigits 12 digits

/-- The text begins with `kubepods`, with 64 digits somewhere behind it on the same line. The first ones
count, and they show their first twelve. -/
def BehindKubepods (t digits : ByteString) : Prop :=
  ∃ gap hash rest, t = ascii "kubepods" ++ (gap ++ (hash ++ rest)) ∧ HexDigits 64 hash ∧
    (∀ b ∈ gap, isNotLineEnd b = true) ∧ digits = hash.take 12 ∧
    ∀ gap' hash' rest', gap ++ (hash ++ rest) = gap' ++ (hash' ++ rest') → HexDigits 64 hash' →
      gap.length ≤ gap'.length

/-- The text begins with the path of a pod below a level for the quality of service. -/
def PodPath (t digits : ByteString) : Prop :=
  ∃ slice qos uid hash rest, t = ascii "kubepods" ++ (slice ++ (ascii "/" ++ (qos ++
      (ascii "/pod" ++ (uid ++ (ascii "/" ++ (hash ++ rest))))))) ∧
    47 ∉ slice ∧ 47 ∉ qos ∧ uid.length = 36 ∧ (∀ b ∈ uid, isUidChar b = true) ∧
    HexDigits 64 hash ∧ digits = hash.take 12

namespace PlaceKind

/-- The text begins with a place of the kind, which shows these twelve digits. -/
def Place : PlaceKind → ByteString → ByteString → Prop
  | .docker => Tagged [ascii "docker/", ascii "docker-"]
  | .containerd => Tagged [ascii "cri-containerd-"]
  | .kubepods => BehindKubepods
  | .crio => Tagged [ascii "crio-"]
  | .podPath => PodPath
  | .podman => Tagged [ascii "libpod-"]

/-- There is a place of the kind on the line. -/
def On (k : PlaceKind) (line : ByteString) : Prop :=
  ∃ before t digits, line = before ++ t ∧ k.Place t digits

/-- The leftmost place of the kind on the line shows these digits. -/
def First (k : PlaceKind) (line digits : ByteString) : Prop :=
  ∃ before t, line = before ++ t ∧ k.Place t digits ∧
    ∀ before' t' digits', line = before' ++ t' → k.Place t' digits' →
      before.length ≤ before'.length

end PlaceKind

/-- The first of the kinds that has a place on the line shows these digits. -/
inductive ShownOn (line digits : ByteString) : List PlaceKind → Prop
  | here {k : PlaceKind} {ks : List PlaceKind} : k.First line digits → ShownOn line digits (k :: ks)
  | next {k : PlaceKind} {ks : List PlaceKind} : ¬ k.On line → ShownOn line digits ks →
      ShownOn line digits (k :: ks)

/-- The first line with a place of one of the kinds shows these digits. -/
inductive Shown (ks : List PlaceKind) (digits : ByteString) : List ByteString → Prop
  | here {line : ByteString} {lines : List ByteString} : ShownOn line digits ks →
      Shown ks digits (line :: lines)
  | next {line : ByteString} {lines : List ByteString} : (∀ k ∈ ks, ¬ k.On line) →
      Shown ks digits lines → Shown ks digits (line :: lines)

/-- There is no Docker and no containerd id on the line. -/
def Unnamed (line : ByteString) : Prop :=
  ¬ PlaceKind.docker.On line ∧ ¬ PlaceKind.containerd.On line

open PlaceKind in
/-- The lines up to the first one with an id, and what may stand on it: a Docker or a containerd id; a
Podman id alone; the same digits first behind `kubepods` and in a CRI-O scope, or without one in the
path of a pod; the same digits in one of these two ways and in a Podman id; or an id in one of these
two ways only, which the other parser finds on a later line. -/
inductive TextAgrees : List ByteString → Prop
  | nothing : TextAgrees []
  | skip {line : ByteString} {lines : List ByteString} : (∀ k : PlaceKind, ¬ k.On line) →
      TextAgrees lines → TextAgrees (line :: lines)
  | named {line : ByteString} {lines : List ByteString} : docker.On line ∨ containerd.On line →
      TextAgrees (line :: lines)
  | podmanAlone {line : ByteString} {lines : List ByteString} : Unnamed line → podman.On line →
      ¬ kubepods.On line → ¬ crio.On line → ¬ podPath.On line → TextAgrees (line :: lines)
  | sameDigits {line digits : ByteString} {lines : List ByteString} : Unnamed line →
      kubepods.First line digits → ShownOn line digits [crio, podPath] →
      TextAgrees (line :: lines)
  | kubepodsAndPodman {line digits : ByteString} {lines : List ByteString} : Unnamed line →
      kubepods.First line digits → ¬ crio.On line → ¬ podPath.On line →
      podman.First line digits → TextAgrees (line :: lines)
  | structuredAndPodman {line digits : ByteString} {lines : List ByteString} : Unnamed line →
      ¬ kubepods.On line → ShownOn line digits [crio, podPath] → podman.First line digits →
      TextAgrees (line :: lines)
  | kubepodsAlone {line digits : ByteString} {lines : List ByteString} : Unnamed line →
      kubepods.First line digits → ¬ crio.On line → ¬ podPath.On line → ¬ podman.On line →
      Shown [docker, containerd, crio, podPath, podman] digits lines → TextAgrees (line :: lines)
  | structuredAlone {line digits : ByteString} {lines : List ByteString} : Unnamed line →
      ¬ kubepods.On line → ShownOn line digits [crio, podPath] → ¬ podman.On line →
      Shown [docker, containerd, kubepods, podman] digits lines → TextAgrees (line :: lines)

/-! ## Places and patterns -/

theorem exists_hexDigits_iff {n max : Nat} (hle : n ≤ max) {t digits : ByteString} :
    (∃ g, matchHere [hexGroup n max] t = some [g] ∧ g.take n = digits) ↔
      ∃ rest, t = digits ++ rest ∧ HexDigits n digits := by
  rw [hexGroup, matchHere_group_iff hle]
  exact ⟨fun ⟨rest, ht, hlen, hhex⟩ => ⟨rest, ht, hlen, hhex⟩,
    fun ⟨rest, ht, hdigits⟩ => ⟨rest, ht, hdigits.length_eq, hdigits.hex⟩⟩

theorem matchHere_literal_iff {tag : String} {ps : Pattern UInt8} {t : ByteString}
    {groups : List ByteString} :
    matchHere (literal tag ++ ps) t = some groups ↔
      ∃ rest, t = ascii tag ++ rest ∧ matchHere ps rest = some groups := by
  constructor
  · exact exists_of_matchHere_exactly
  · rintro ⟨rest, rfl, h⟩
    exact (matchHere_exactly _ _ _).trans h

namespace PlaceKind

/-- The pattern of a kind. -/
def pattern : PlaceKind → Pattern UInt8
  | .docker => dockerPattern
  | .containerd => containerdPattern
  | .kubepods => anyKubePattern
  | .crio => crioPattern
  | .podPath => kubePattern
  | .podman => podmanPattern

/-- The group of the pattern that is the id. -/
def group : PlaceKind → Nat
  | .podPath => 1
  | _ => 0

/-- The first twelve digits of the id that a search finds. -/
def find (k : PlaceKind) (line : ByteString) : Option ByteString :=
  (searchGroup k.pattern k.group line).map (·.take 12)

end PlaceKind

theorem tagged_iff {tag : String} {t digits : ByteString} :
    Tagged [ascii tag] t digits ↔ ∃ groups id,
      matchHere (literal tag ++ [hexGroup 12 64]) t = some groups ∧ groups[0]? = some id ∧
        id.take 12 = digits := by
  constructor
  · rintro ⟨_, htag, rest, rfl, hdigits⟩
    obtain rfl := List.mem_singleton.1 htag
    obtain ⟨g, hmatch, hg⟩ := (exists_hexDigits_iff (by decide : 12 ≤ 64)).2 ⟨rest, rfl, hdigits⟩
    exact ⟨[g], g, matchHere_literal_iff.2 ⟨_, rfl, hmatch⟩, rfl, hg⟩
  · rintro ⟨groups, id, hmatch, hid, rfl⟩
    obtain ⟨rest, rfl, hrest⟩ := matchHere_literal_iff.1 hmatch
    obtain ⟨g, _, rfl, -, -, -, rfl⟩ := fitsGroups_of_matchHere hrest
    obtain rfl : g = id := Option.some.inj hid
    obtain ⟨more, hmore, hdigits⟩ :=
      (exists_hexDigits_iff (by decide : 12 ≤ 64)).1 ⟨g, hrest, rfl⟩
    exact ⟨_, List.mem_singleton_self _, more, by rw [hmore], hdigits⟩

theorem docker_place_iff {t digits : ByteString} :
    Tagged [ascii "docker/", ascii "docker-"] t digits ↔ ∃ groups id,
      matchHere dockerPattern t = some groups ∧ groups[0]? = some id ∧ id.take 12 = digits := by
  have hslash : ascii "docker/" = ascii "docker" ++ [47] := by decide
  have hhyphen : ascii "docker-" = ascii "docker" ++ [45] := by decide
  constructor
  · rintro ⟨tag, htag, rest, rfl, hdigits⟩
    obtain ⟨g, hmatch, hg⟩ := (exists_hexDigits_iff (by decide : 12 ≤ 64)).2 ⟨rest, rfl, hdigits⟩
    refine ⟨[g], g, ?_, rfl, hg⟩
    rcases List.mem_cons.1 htag with rfl | htag
    · rw [hslash, List.append_assoc]
      exact matchHere_literal_iff.2 ⟨_, rfl, hmatch⟩
    · obtain rfl := List.mem_singleton.1 htag
      rw [hhyphen, List.append_assoc]
      exact matchHere_literal_iff.2 ⟨_, rfl, hmatch⟩
  · rintro ⟨groups, id, hmatch, hid, rfl⟩
    obtain ⟨rest, rfl, hrest⟩ := matchHere_literal_iff.1 hmatch
    cases rest with
    | nil => cases hrest
    | cons b rest =>
        by_cases hb : (b == 47 || b == 45) = true
        · rw [matchHere_one_of_pos (p := fun b : UInt8 => b == 47 || b == 45) hb] at hrest
          obtain ⟨g, _, rfl, -, -, -, rfl⟩ := fitsGroups_of_matchHere hrest
          obtain rfl : g = id := Option.some.inj hid
          obtain ⟨more, rfl, hdigits⟩ :=
            (exists_hexDigits_iff (by decide : 12 ≤ 64)).1 ⟨g, hrest, rfl⟩
          rcases Bool.or_eq_true_iff.1 hb with hb | hb
          · refine ⟨_, List.mem_cons_self, more, ?_, hdigits⟩
            rw [hslash, List.append_assoc, eq_of_beq hb]
            rfl
          · refine ⟨_, List.mem_cons_of_mem _ List.mem_cons_self, more, ?_, hdigits⟩
            rw [hhyphen, List.append_assoc, eq_of_beq hb]
            rfl
        · rw [matchHere_one_of_neg (p := fun b : UInt8 => b == 47 || b == 45)
            (eq_false_of_ne_true hb)] at hrest
          cases hrest

/-- 64 digits are what the last item of the two patterns for pods takes. -/
theorem matchHere_hash_iff {t hash : ByteString} :
    matchHere [hexGroup 64 64] t = some [hash] ↔ ∃ rest, t = hash ++ rest ∧ HexDigits 64 hash := by
  rw [← exists_hexDigits_iff (le_refl 64)]
  constructor
  · intro hmatch
    obtain ⟨g, _, heq, -, hmax, -, rfl⟩ := fitsGroups_of_matchHere hmatch
    obtain rfl : hash = g := (List.cons.inj heq).1
    exact ⟨hash, hmatch, List.take_of_length_le (hmax 64 rfl)⟩
  · rintro ⟨g, hmatch, rfl⟩
    obtain ⟨g', _, heq, -, hmax, -, rfl⟩ := fitsGroups_of_matchHere hmatch
    obtain rfl : g = g' := (List.cons.inj heq).1
    rw [List.take_of_length_le (hmax 64 rfl), hmatch]

theorem behindKubepods_iff {t digits : ByteString} :
    BehindKubepods t digits ↔ ∃ groups id,
      matchHere anyKubePattern t = some groups ∧ groups[0]? = some id ∧ id.take 12 = digits := by
  constructor
  · rintro ⟨gap, hash, rest, rfl, hdigits, hgap, rfl, hfirst⟩
    refine ⟨[hash], hash, matchHere_literal_iff.2 ⟨_, rfl, ?_⟩, rfl, rfl⟩
    refine matchHere_run_lazy_iff.2
      ⟨gap, _, rfl, hgap, matchHere_hash_iff.2 ⟨rest, rfl, hdigits⟩, fun gap' t' heq hlt => ?_⟩
    by_contra hne
    obtain ⟨groups, hmatch⟩ := Option.ne_none_iff_exists'.1 hne
    obtain ⟨hash', _, rfl, -, -, -, rfl⟩ := fitsGroups_of_matchHere hmatch
    obtain ⟨rest', rfl, hdigits'⟩ := matchHere_hash_iff.1 hmatch
    exact absurd (hfirst gap' hash' rest' heq hdigits') (Nat.not_le_of_lt hlt)
  · rintro ⟨groups, id, hmatch, hid, rfl⟩
    obtain ⟨u, rfl, hrest⟩ := matchHere_literal_iff.1 hmatch
    obtain ⟨gap, v, rfl, hgap, hlast, hleft⟩ := matchHere_run_lazy_iff.1 hrest
    obtain ⟨hash, _, rfl, -, -, -, rfl⟩ := fitsGroups_of_matchHere hlast
    obtain rfl : hash = id := Option.some.inj hid
    obtain ⟨rest, rfl, hdigits⟩ := matchHere_hash_iff.1 hlast
    refine ⟨gap, hash, rest, rfl, hdigits, hgap, rfl, fun gap' hash' rest' heq hdigits' => ?_⟩
    by_contra hlt
    have hnone := hleft gap' (hash' ++ rest') heq (Nat.lt_of_not_le hlt)
    rw [matchHere_hash_iff.2 ⟨rest', rfl, hdigits'⟩] at hnone
    cases hnone

theorem kubePattern_eq : kubePattern = literal "kubepods" ++ (.run isNotSlash 0 none false false ::
    (literal "/" ++ (.run isNotSlash 0 none false false :: (literal "/pod" ++
      (.run isUidChar 36 (some 36) false true :: (literal "/" ++ [hexGroup 64 64])))))) := by
  simp only [kubePattern, podPattern, List.append_assoc, List.cons_append, List.nil_append]

theorem podPath_iff {t digits : ByteString} :
    PodPath t digits ↔ ∃ groups id,
      matchHere kubePattern t = some groups ∧ groups[1]? = some id ∧ id.take 12 = digits := by
  have hslash : ∀ {text : ByteString}, 47 ∉ text ↔ ∀ b ∈ text, isNotSlash b = true := by
    intro text
    refine ⟨fun h b hb => bne_iff_ne.2 fun heq => h (heq ▸ hb), fun h hmem => ?_⟩
    exact absurd (h 47 hmem) (by decide)
  rw [kubePattern_eq]
  constructor
  · rintro ⟨slice, qos, uid, hash, rest, rfl, hslice, hqos, hlen, huid, hdigits, rfl⟩
    refine ⟨[uid, hash], hash, matchHere_literal_iff.2 ⟨_, rfl, ?_⟩, rfl, rfl⟩
    have huidMatch : matchHere (.run isUidChar 36 (some 36) false true ::
        (literal "/" ++ [hexGroup 64 64])) (uid ++ (ascii "/" ++ (hash ++ rest))) = _ :=
      matchHere_run_exact huid hlen _
    rw [matchHere_literal_iff.2 ⟨_, rfl, matchHere_hash_iff.2 ⟨rest, rfl, hdigits⟩⟩] at huidMatch
    -- both levels end at the next slash
    refine matchHere_run_greedy (hslash.1 hslice) (by rintro b ⟨⟩; rfl) (Nat.zero_le _) ?_
    refine matchHere_literal_iff.2 ⟨_, rfl, ?_⟩
    refine matchHere_run_greedy (hslash.1 hqos) (by rintro b ⟨⟩; rfl) (Nat.zero_le _) ?_
    exact matchHere_literal_iff.2 ⟨_, rfl, huidMatch⟩
  · rintro ⟨groups, id, hmatch, hid, rfl⟩
    obtain ⟨t₁, rfl, hmatch⟩ := matchHere_literal_iff.1 hmatch
    obtain ⟨slice, t₂, groups₁, rfl, -, -, hslice, hmatch, hgroups⟩ := exists_of_matchHere hmatch
    obtain ⟨t₃, rfl, hmatch⟩ := matchHere_literal_iff.1 hmatch
    obtain ⟨qos, t₄, groups₂, rfl, -, -, hqos, hmatch, hgroups₁⟩ := exists_of_matchHere hmatch
    obtain ⟨t₅, rfl, hmatch⟩ := matchHere_literal_iff.1 hmatch
    obtain ⟨uid, t₆, groups₃, rfl, hmin, hmax, huid, hmatch, hgroups₂⟩ := exists_of_matchHere hmatch
    obtain ⟨t₇, rfl, hmatch⟩ := matchHere_literal_iff.1 hmatch
    obtain ⟨hash, _, rfl, -, -, -, rfl⟩ := fitsGroups_of_matchHere hmatch
    obtain ⟨rest, rfl, hdigits⟩ := matchHere_hash_iff.1 hmatch
    rw [hgroups, hgroups₁, hgroups₂] at hid
    obtain rfl : hash = id := Option.some.inj hid
    exact ⟨slice, qos, uid, hash, rest, rfl, hslash.2 hslice, hslash.2 hqos,
      le_antisymm (hmax 36 rfl) hmin, huid, hdigits, rfl⟩

namespace PlaceKind

/-- A text begins with a place of a kind exactly if the pattern matches there. -/
theorem place_iff (k : PlaceKind) {t digits : ByteString} :
    k.Place t digits ↔ ∃ groups id,
      matchHere k.pattern t = some groups ∧ groups[k.group]? = some id ∧ id.take 12 = digits := by
  cases k with
  | docker => exact docker_place_iff
  | containerd => exact tagged_iff
  | kubepods => exact behindKubepods_iff
  | crio => exact tagged_iff
  | podPath => exact podPath_iff
  | podman => exact tagged_iff

/-- Every match has the group of the id. -/
theorem exists_place_of_match (k : PlaceKind) {t : ByteString} {groups : List ByteString}
    (h : matchHere k.pattern t = some groups) : ∃ digits, k.Place t digits := by
  have hfits := fitsGroups_of_matchHere h
  have hid : ∃ id, groups[k.group]? = some id := by
    cases k with
    | podPath =>
        obtain ⟨uid, _, rfl, -, -, -, id, _, rfl, -⟩ := hfits
        exact ⟨id, rfl⟩
    | docker | containerd | kubepods | crio | podman =>
        obtain ⟨id, _, rfl, -⟩ := hfits
        exact ⟨id, rfl⟩
  obtain ⟨id, hid⟩ := hid
  exact ⟨id.take 12, k.place_iff.2 ⟨groups, id, h, hid, rfl⟩⟩

theorem first_iff (k : PlaceKind) {line digits : ByteString} :
    k.First line digits ↔ k.find line = some digits := by
  rw [find, searchGroup, Option.map_eq_some_iff]
  simp only [Option.bind_eq_some_iff, search_eq_some_iff]
  constructor
  · rintro ⟨before, t, hline, hplace, hleft⟩
    obtain ⟨groups, id, hmatch, hid, hdigits⟩ := k.place_iff.1 hplace
    refine ⟨id, ⟨groups, ⟨before, t, hline, hmatch, fun before' t' hline' hlt => ?_⟩, hid⟩, hdigits⟩
    by_contra hne
    obtain ⟨groups', hmatch'⟩ := Option.ne_none_iff_exists'.1 hne
    obtain ⟨digits', hplace'⟩ := k.exists_place_of_match hmatch'
    exact absurd (hleft before' t' digits' hline' hplace') (Nat.not_le_of_lt hlt)
  · rintro ⟨id, ⟨groups, ⟨before, t, hline, hmatch, hleft⟩, hid⟩, hdigits⟩
    refine ⟨before, t, hline, k.place_iff.2 ⟨groups, id, hmatch, hid, hdigits⟩,
      fun before' t' digits' hline' hplace' => ?_⟩
    by_contra hlt
    obtain ⟨groups', id', hmatch', -⟩ := k.place_iff.1 hplace'
    rw [hleft before' t' hline' (Nat.lt_of_not_le hlt)] at hmatch'
    cases hmatch'

theorem not_on_iff (k : PlaceKind) {line : ByteString} : ¬ k.On line ↔ k.find line = none := by
  constructor
  · intro h
    by_contra hne
    obtain ⟨digits, hfind⟩ := Option.ne_none_iff_exists'.1 hne
    obtain ⟨before, t, hline, hplace, -⟩ := k.first_iff.2 hfind
    exact h ⟨before, t, digits, hline, hplace⟩
  · rintro hnone ⟨before, t, digits, hline, hplace⟩
    obtain ⟨groups, id, hmatch, -⟩ := k.place_iff.1 hplace
    -- a place on the line means that a search finds one
    obtain ⟨found, hfound⟩ := exists_search_of_match before hmatch
    rw [← hline] at hfound
    obtain ⟨t', -, hmatch'⟩ := exists_match_of_search hfound
    obtain ⟨digits', hplace'⟩ := k.exists_place_of_match hmatch'
    obtain ⟨groups', id', hagain, hid', -⟩ := k.place_iff.1 hplace'
    obtain rfl : found = groups' := Option.some.inj (hmatch'.symm.trans hagain)
    rw [find, searchGroup, hfound, Option.bind_some, hid'] at hnone
    cases hnone

end PlaceKind

/-- What the first of the kinds that is found on a line shows. -/
def findOn (ks : List PlaceKind) (line : ByteString) : Option ByteString :=
  ks.findSome? fun k => k.find line

@[simp] theorem findOn_nil (line : ByteString) : findOn [] line = none := rfl

theorem findOn_cons (k : PlaceKind) (ks : List PlaceKind) (line : ByteString) :
    findOn (k :: ks) line = (k.find line).or (findOn ks line) := by
  rw [findOn, List.findSome?_cons, findOn]
  cases k.find line with
  | none => rfl
  | some digits => rfl

theorem shownOn_iff {ks : List PlaceKind} {line digits : ByteString} :
    ShownOn line digits ks ↔ findOn ks line = some digits := by
  constructor
  · intro h
    induction h with
    | here hfirst => rw [findOn_cons, PlaceKind.first_iff _ |>.1 hfirst, Option.some_or]
    | next hnot _ ih => rw [findOn_cons, PlaceKind.not_on_iff _ |>.1 hnot, Option.none_or, ih]
  · intro h
    induction ks with
    | nil => cases h
    | cons k ks ih =>
        rw [findOn_cons] at h
        cases hk : k.find line with
        | some digits' =>
            rw [hk, Option.some_or] at h
            exact .here (k.first_iff.2 (hk.trans h))
        | none =>
            rw [hk, Option.none_or] at h
            exact .next (k.not_on_iff.2 hk) (ih h)

theorem forall_not_on_iff {ks : List PlaceKind} {line : ByteString} :
    (∀ k ∈ ks, ¬ k.On line) ↔ findOn ks line = none := by
  rw [findOn, List.findSome?_eq_none_iff]
  exact forall₂_congr fun k _ => k.not_on_iff

theorem shown_iff {ks : List PlaceKind} {digits : ByteString} {lines : List ByteString} :
    Shown ks digits lines ↔ lines.findSome? (findOn ks) = some digits := by
  constructor
  · intro h
    induction h with
    | here hshown => rw [List.findSome?_cons, shownOn_iff.1 hshown]
    | next hnot _ ih => rw [List.findSome?_cons, forall_not_on_iff.1 hnot, ih]
  · intro h
    induction lines with
    | nil => cases h
    | cons line lines ih =>
        rw [List.findSome?_cons] at h
        cases hline : findOn ks line with
        | some digits' =>
            rw [hline] at h
            exact .here (shownOn_iff.2 (hline.trans h))
        | none =>
            rw [hline] at h
            exact .next (forall_not_on_iff.2 hline) (ih h)

/-! ## What the parsers take from the text -/

open PlaceKind in
/-- What the first parser takes from a line. -/
theorem findOn_loose (line : ByteString) :
    (sharedId line <|> looseId line).map (·.take 12) =
      findOn [docker, containerd, kubepods, podman] line := by
  simp only [sharedId, looseId, Option.orElse_eq_orElse, Option.orElse_eq_or, Option.map_or,
    Option.or_assoc, findOn_cons, findOn_nil, Option.or_none, find, pattern, group]

open PlaceKind in
/-- What the second parser takes from a line. -/
theorem findOn_structured (line : ByteString) :
    (sharedId line <|> structuredId line).map (·.take 12) =
      findOn [docker, containerd, crio, podPath, podman] line := by
  simp only [sharedId, structuredId, Option.orElse_eq_orElse, Option.orElse_eq_or, Option.map_or,
    Option.or_assoc, findOn_cons, findOn_nil, Option.or_none, find, pattern, group]

open PlaceKind in
theorem findOn_loose_eq (line : ByteString) :
    findOn [docker, containerd, kubepods, podman] line =
      (findOn [docker, containerd] line).or ((kubepods.find line).or (podman.find line)) := by
  simp only [findOn_cons, findOn_nil, Option.or_none, Option.or_assoc]

open PlaceKind in
theorem findOn_structured_eq (line : ByteString) :
    findOn [docker, containerd, crio, podPath, podman] line =
      (findOn [docker, containerd] line).or
        ((findOn [crio, podPath] line).or (podman.find line)) := by
  simp only [findOn_cons, findOn_nil, Option.or_none, Option.or_assoc]

open PlaceKind in
theorem unnamed_iff {line : ByteString} :
    Unnamed line ↔ findOn [docker, containerd] line = none := by
  rw [← forall_not_on_iff]
  simp [Unnamed]

open PlaceKind in
theorem unstructured_iff {line : ByteString} :
    ¬ crio.On line ∧ ¬ podPath.On line ↔ findOn [crio, podPath] line = none := by
  rw [← forall_not_on_iff]
  simp

open PlaceKind in
theorem textAgrees_iff (lines : List ByteString) :
    lines.findSome? (findOn [docker, containerd, kubepods, podman]) =
        lines.findSome? (findOn [docker, containerd, crio, podPath, podman]) ↔
      TextAgrees lines := by
  constructor
  · intro h
    induction lines with
    | nil => exact .nothing
    | cons line lines ih =>
        rw [List.findSome?_cons, List.findSome?_cons, findOn_loose_eq, findOn_structured_eq] at h
        cases hnamed : findOn [docker, containerd] line with
        | some digits =>
            -- one of the two is on the line
            refine .named ?_
            by_contra hnot
            rw [unnamed_iff.1 (not_or.1 hnot)] at hnamed
            cases hnamed
        | none =>
            have hunnamed := unnamed_iff.2 hnamed
            rw [hnamed, Option.none_or, Option.none_or] at h
            cases hkube : kubepods.find line with
            | none =>
                have hnokube := kubepods.not_on_iff.2 hkube
                rw [hkube, Option.none_or] at h
                cases hpath : findOn [crio, podPath] line with
                | none =>
                    obtain ⟨hnocrio, hnopath⟩ := unstructured_iff.2 hpath
                    rw [hpath, Option.none_or] at h
                    cases hpodman : podman.find line with
                    | none =>
                        rw [hpodman] at h
                        refine .skip (fun k => ?_) (ih h)
                        cases k with
                        | docker => exact hunnamed.1
                        | containerd => exact hunnamed.2
                        | kubepods => exact hnokube
                        | crio => exact hnocrio
                        | podPath => exact hnopath
                        | podman => exact podman.not_on_iff.2 hpodman
                    | some digits =>
                        refine .podmanAlone hunnamed ?_ hnokube hnocrio hnopath
                        by_contra hnot
                        rw [podman.not_on_iff.1 hnot] at hpodman
                        cases hpodman
                | some digits =>
                    rw [hpath, Option.some_or] at h
                    cases hpodman : podman.find line with
                    | none =>
                        rw [hpodman] at h
                        exact .structuredAlone hunnamed hnokube (shownOn_iff.2 hpath)
                          (podman.not_on_iff.2 hpodman) (shown_iff.2 h)
                    | some digits' =>
                        rw [hpodman] at h
                        obtain rfl := Option.some.inj h
                        exact .structuredAndPodman hunnamed hnokube (shownOn_iff.2 hpath)
                          (podman.first_iff.2 hpodman)
            | some digits =>
                have hfirst := kubepods.first_iff.2 hkube
                rw [hkube, Option.some_or] at h
                cases hpath : findOn [crio, podPath] line with
                | none =>
                    obtain ⟨hnocrio, hnopath⟩ := unstructured_iff.2 hpath
                    rw [hpath, Option.none_or] at h
                    cases hpodman : podman.find line with
                    | none =>
                        rw [hpodman] at h
                        exact .kubepodsAlone hunnamed hfirst hnocrio hnopath
                          (podman.not_on_iff.2 hpodman) (shown_iff.2 h.symm)
                    | some digits' =>
                        rw [hpodman] at h
                        obtain rfl := Option.some.inj h
                        exact .kubepodsAndPodman hunnamed hfirst hnocrio hnopath
                          (podman.first_iff.2 hpodman)
                | some digits' =>
                    rw [hpath, Option.some_or] at h
                    obtain rfl := Option.some.inj h
                    exact .sameDigits hunnamed hfirst (shownOn_iff.2 hpath)
  · intro h
    induction h with
    | nothing => rfl
    | skip hnot _ ih =>
        rw [List.findSome?_cons, List.findSome?_cons, forall_not_on_iff.1 fun k _ => hnot k,
          forall_not_on_iff.1 fun k _ => hnot k]
        exact ih
    | named hnamed =>
        rw [List.findSome?_cons, List.findSome?_cons, findOn_loose_eq, findOn_structured_eq]
        obtain ⟨digits, hdigits⟩ := Option.ne_none_iff_exists'.1 fun hnone =>
          not_or.2 (unnamed_iff.2 hnone) hnamed
        rw [hdigits, Option.some_or, Option.some_or]
    | podmanAlone hunnamed hpodman hkube hcrio hpath =>
        rw [List.findSome?_cons, List.findSome?_cons, findOn_loose_eq, findOn_structured_eq,
          unnamed_iff.1 hunnamed, kubepods.not_on_iff.1 hkube, unstructured_iff.1 ⟨hcrio, hpath⟩]
        obtain ⟨digits, hdigits⟩ := Option.ne_none_iff_exists'.1 fun hnone =>
          podman.not_on_iff.2 hnone hpodman
        rw [hdigits]
        rfl
    | sameDigits hunnamed hkube hpath =>
        rw [List.findSome?_cons, List.findSome?_cons, findOn_loose_eq, findOn_structured_eq,
          unnamed_iff.1 hunnamed, kubepods.first_iff.1 hkube, shownOn_iff.1 hpath]
        rfl
    | kubepodsAndPodman hunnamed hkube hcrio hpath hpodman =>
        rw [List.findSome?_cons, List.findSome?_cons, findOn_loose_eq, findOn_structured_eq,
          unnamed_iff.1 hunnamed, kubepods.first_iff.1 hkube, unstructured_iff.1 ⟨hcrio, hpath⟩,
          podman.first_iff.1 hpodman]
        rfl
    | structuredAndPodman hunnamed hkube hpath hpodman =>
        rw [List.findSome?_cons, List.findSome?_cons, findOn_loose_eq, findOn_structured_eq,
          unnamed_iff.1 hunnamed, kubepods.not_on_iff.1 hkube, shownOn_iff.1 hpath,
          podman.first_iff.1 hpodman]
        rfl
    | kubepodsAlone hunnamed hkube hcrio hpath hpodman hshown =>
        rw [List.findSome?_cons, List.findSome?_cons, findOn_loose_eq, findOn_structured_eq,
          unnamed_iff.1 hunnamed, kubepods.first_iff.1 hkube, unstructured_iff.1 ⟨hcrio, hpath⟩,
          podman.not_on_iff.1 hpodman]
        exact (shown_iff.1 hshown).symm
    | structuredAlone hunnamed hkube hpath hpodman hshown =>
        rw [List.findSome?_cons, List.findSome?_cons, findOn_loose_eq, findOn_structured_eq,
          unnamed_iff.1 hunnamed, kubepods.not_on_iff.1 hkube, shownOn_iff.1 hpath,
          podman.not_on_iff.1 hpodman]
        exact shown_iff.1 hshown

theorem firstLoose_eq (lines : List ByteString) :
    (firstLoose lines).map (·.take 12) =
      lines.findSome? (findOn [.docker, .containerd, .kubepods, .podman]) := by
  rw [firstLoose, List.map_findSome?]
  exact congrArg (fun f => lines.findSome? f) (funext findOn_loose)

theorem firstStructured_eq (lines : List ByteString) :
    (firstStructured lines).map (·.take 12) =
      lines.findSome? (findOn [.docker, .containerd, .crio, .podPath, .podman]) := by
  rw [firstStructured, List.map_findSome?]
  exact congrArg (fun f => lines.findSome? f) (funext findOn_structured)

/-- The two parsers recognise the same container in a text exactly if its lines have only places that
they read in the same way. -/
theorem parsers_agree_iff (detectedRuntime : Runtime) (text : ByteString) :
    SameContainer (extractContainerHashFromCgroup (some text))
        (parseCgroup detectedRuntime (some text)).containerId ↔
      TextAgrees (getLines text) := by
  rw [extract_eq, parse_eq, sameContainer_iff, firstLoose_eq, firstStructured_eq, textAgrees_iff]

/-- The cgroup of a pod of guaranteed quality of service, whose path has no level for it. -/
def guaranteedPodCgroup : ByteString :=
  ascii "0::/kubepods/pod11111111-2222-3333-4444-555555555555/" ++ List.replicate 64 97

/-- The first parser recognises the container and the second one does not. -/
theorem guaranteed_pod_not_recognised :
    ¬ SameContainer (extractContainerHashFromCgroup (some guaranteedPodCgroup))
      (parseCgroup .containerd (some guaranteedPodCgroup)).containerId := by
  have hhash : extractContainerHashFromCgroup (some guaranteedPodCgroup) =
      List.replicate 12 97 := by decide +kernel
  have hid : (parseCgroup .containerd (some guaranteedPodCgroup)).containerId = [] := by
    decide +kernel
  rw [hhash, hid]
  intro h
  exact h.1.1 (by decide) rfl

end DeepKernel.Agent
