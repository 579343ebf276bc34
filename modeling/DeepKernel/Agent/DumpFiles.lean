import DeepKernel.Agent.Dump
import DeepKernel.Agent.FieldSearch
import DeepKernel.Lib.FilePaths

/-!
# The files of two dumps

The name of a dump file is made of the sanitised container id and the local time to the second. A
name can be taken apart again (`dumpFileName_inj`), so two successful requests share a file only if
they agree in both: within one second, ids that differ in a slash, a backslash or an underscore, or a
container whose last dump has just ended. The operating system reads a path up to a NUL; ids that
have one lose the timestamp altogether.
-/

set_option autoImplicit false

namespace DeepKernel.Agent

open DeepKernel.Lib

/-! ## Timestamps -/

/-- `std::tm`, as `localtime` fills it for a time that is not before the year 0. -/
structure Tm where
  year : Nat
  month : Nat
  day : Nat
  hour : Nat
  minute : Nat
  second : Nat
  month_range : 1 ≤ month ∧ month ≤ 12
  day_range : 1 ≤ day ∧ day ≤ 31
  hour_lt : hour < 24
  minute_lt : minute < 60
  -- 60 is a leap second
  second_le : second ≤ 60
  deriving DecidableEq

/-- A reading of the local clock. -/
structure LocalTime extends Tm where
  nanosecond : Nat
  nanosecond_lt : nanosecond < 10 ^ 9
  deriving DecidableEq

/-- The parts of a reading, the most significant one first. -/
def LocalTime.parts (now : LocalTime) : List Nat :=
  [now.year, now.month, now.day, now.hour, now.minute, now.second, now.nanosecond]

/-- Two digits. -/
def twoDigits (n : Nat) : ByteString := [UInt8.ofNat (48 + n / 10), UInt8.ofNat (48 + n % 10)]

/-- `strftime` with the format `%Y%m%d-%H%M%S`. -/
def strftime (tm : Tm) : ByteString :=
  decimal tm.year ++
    (twoDigits tm.month ++ twoDigits tm.day ++ ascii "-" ++ twoDigits tm.hour ++
      twoDigits tm.minute ++ twoDigits tm.second)

/-- `nowTimestampForFile`: `to_time_t` drops what is less than a second. -/
def nowTimestampForFile (now : LocalTime) : ByteString := strftime now.toTm

theorem toNat_digit {n : Nat} (h : n < 10) : (UInt8.ofNat (48 + n)).toNat = 48 + n := by
  rw [UInt8.toNat_ofNat']
  omega

theorem twoDigits_inj {m n : Nat} (hm : m < 100) (hn : n < 100) (h : twoDigits m = twoDigits n) :
    m = n := by
  obtain ⟨htens, hones⟩ := List.cons_eq_cons.1 h
  have htens := congrArg UInt8.toNat htens
  have hones := congrArg UInt8.toNat (List.cons_eq_cons.1 hones).1
  rw [toNat_digit (by omega), toNat_digit (by omega)] at htens hones
  omega

theorem hyphen_not_mem_decimal (n : Nat) : 45 ∉ decimal n := by
  intro hmem
  have hdigit := isDigit_of_mem_decimal hmem
  exact absurd hdigit (by decide)

/-! ## Names -/

/-- The name of a dump file in its directory. -/
def dumpFileName (containerId timestamp : ByteString) : ByteString :=
  sanitizeContainerId containerId ++ ascii "-" ++ timestamp ++ ascii ".dkdump"

theorem dumpFilePath_eq (cfg : Setup) (c timestamp : ByteString) :
    dumpFilePath cfg c timestamp = joinPath cfg.dumpDir (dumpFileName c timestamp) := rfl

/-- A file name keeps the sanitised id and the time to the second. -/
theorem dumpFileName_inj {c₁ c₂ : ByteString} {tm₁ tm₂ : Tm}
    (h : dumpFileName c₁ (strftime tm₁) = dumpFileName c₂ (strftime tm₂)) :
    sanitizeContainerId c₁ = sanitizeContainerId c₂ ∧ tm₁ = tm₂ := by
  rw [dumpFileName, dumpFileName] at h
  have h := List.append_cancel_right h
  rw [strftime, strftime, ← List.append_assoc (sanitizeContainerId c₁ ++ ascii "-"),
    ← List.append_assoc (sanitizeContainerId c₂ ++ ascii "-")] at h
  -- what follows the year has a fixed length
  obtain ⟨hfront, hback⟩ := List.append_inj' h rfl
  obtain ⟨hback, hsecond⟩ := List.append_inj' hback rfl
  obtain ⟨hback, hminute⟩ := List.append_inj' hback rfl
  obtain ⟨hback, hhour⟩ := List.append_inj' hback rfl
  obtain ⟨hmonth, hday⟩ := List.append_inj' (List.append_cancel_right hback) rfl
  -- and the year has no hyphen, so the last one of the rest ends the id
  rw [List.append_assoc, List.append_assoc] at hfront
  obtain ⟨hid, hyear⟩ := append_last_mark_injective (hyphen_not_mem_decimal _)
    (hyphen_not_mem_decimal _) hfront
  refine ⟨hid, ?_⟩
  obtain ⟨year₁, month₁, day₁, hour₁, minute₁, second₁, hm₁, hd₁, hh₁, hmin₁, hs₁⟩ := tm₁
  obtain ⟨year₂, month₂, day₂, hour₂, minute₂, second₂, hm₂, hd₂, hh₂, hmin₂, hs₂⟩ := tm₂
  rw [Tm.mk.injEq]
  exact ⟨decimal_inj hyear, twoDigits_inj (by omega) (by omega) hmonth,
    twoDigits_inj (by omega) (by omega) hday, twoDigits_inj (by omega) (by omega) hhour,
    twoDigits_inj (by omega) (by omega) hminute, twoDigits_inj (by omega) (by omega) hsecond⟩

theorem nul_mem_sanitizeContainerId {c : ByteString} : 0 ∈ sanitizeContainerId c ↔ 0 ∈ c := by
  constructor
  · intro hmem
    obtain ⟨b, hb, hzero⟩ := List.mem_map.1 hmem
    split_ifs at hzero with hslash
    · exact absurd hzero (by decide)
    · exact hzero ▸ hb
  · intro hmem
    exact List.mem_map.2 ⟨0, hmem, by decide⟩

/-! ## Files -/

theorem joinPath_inj {dir name₁ name₂ : ByteString} :
    joinPath dir name₁ = joinPath dir name₂ ↔ name₁ = name₂ := by
  constructor
  · intro h
    rw [joinPath, joinPath] at h
    split_ifs at h
    · exact List.append_cancel_left h
    · exact List.append_cancel_left h
  · exact fun h => by rw [h]

theorem cString_joinPath {dir : ByteString} (h : 0 ∉ dir) (name : ByteString) :
    cString (joinPath dir name) = joinPath dir (cString name) := by
  rw [joinPath, joinPath]
  split_ifs
  · exact cString_append h name
  · have hslash : 0 ∉ dir ++ ascii "/" := by
      intro hmem
      rcases List.mem_append.1 hmem with hdir | hslash
      · exact h hdir
      · exact absurd hslash (by decide)
    exact cString_append hslash name

/-- A NUL in the directory cuts the name off. -/
theorem cString_joinPath_of_nul {dir : ByteString} (h : 0 ∈ dir) (name : ByteString) :
    cString (joinPath dir name) = cString dir := by
  rw [joinPath]
  split_ifs
  · exact (exists_cString_append h name).1
  · rw [List.append_assoc]
    exact (exists_cString_append h _).1

theorem nul_not_mem_twoDigits {n : Nat} (h : n < 100) : 0 ∉ twoDigits n := by
  have hdigit : ∀ k, k < 10 → 0 ≠ UInt8.ofNat (48 + k) := by
    intro k hk hzero
    have hvalue := congrArg UInt8.toNat hzero
    rw [toNat_digit hk, UInt8.toNat_zero] at hvalue
    omega
  simp only [twoDigits, List.mem_cons, List.not_mem_nil, or_false, not_or]
  exact ⟨hdigit (n / 10) (by omega), hdigit (n % 10) (by omega)⟩

theorem nul_not_mem_strftime (tm : Tm) : 0 ∉ strftime tm := by
  have hyear : 0 ∉ decimal tm.year := by
    intro hmem
    exact absurd (isDigit_of_mem_decimal hmem) (by decide)
  have hmonth := tm.month_range
  have hday := tm.day_range
  have hhour := tm.hour_lt
  have hminute := tm.minute_lt
  have hsecond := tm.second_le
  simp only [strftime, List.mem_append, not_or]
  exact ⟨hyear, ⟨⟨⟨⟨nul_not_mem_twoDigits (by omega), nul_not_mem_twoDigits (by omega)⟩,
    by decide⟩, nul_not_mem_twoDigits (by omega)⟩, nul_not_mem_twoDigits (by omega)⟩,
    nul_not_mem_twoDigits (by omega)⟩

theorem cString_sanitizeContainerId (c : ByteString) :
    cString (sanitizeContainerId c) = sanitizeContainerId (cString c) := by
  have hzero : ((fun b : UInt8 => b != 0) ∘ fun b => if b = 47 ∨ b = 92 then 95 else b) =
      fun b => b != 0 := by
    funext b
    simp only [Function.comp_apply]
    split_ifs with hslash
    · rcases hslash with rfl | rfl
      · rfl
      · rfl
    · rfl
  rw [cString, sanitizeContainerId, List.takeWhile_map, hzero]
  rfl

/-- The name that the operating system reads. -/
theorem cString_dumpFileName (c : ByteString) (tm : Tm) :
    cString (dumpFileName c (strftime tm)) =
      if 0 ∈ c then sanitizeContainerId (cString c) else dumpFileName c (strftime tm) := by
  split_ifs with hnul
  · rw [dumpFileName, List.append_assoc, List.append_assoc,
      (exists_cString_append (nul_mem_sanitizeContainerId.2 hnul) _).1, cString_sanitizeContainerId]
  · refine cString_eq ?_
    simp only [dumpFileName, List.mem_append, not_or]
    exact ⟨⟨⟨fun hmem => hnul (nul_mem_sanitizeContainerId.1 hmem), by decide⟩,
      nul_not_mem_strftime tm⟩, by decide⟩

/-- The file that the stream of a container has open. -/
def AgentState.dumpFile (a : AgentState) (c : ByteString) : Option ByteString :=
  (a.dump c).stream.file.map cString

/-- Two requests get names of their own: without a NUL in an id, the sanitised ids or the seconds
differ; an id with a NUL, up to which it is the whole name, is not the name of the other one. -/
structure NamesApart (cfg : Setup) (c₁ : ByteString) (now₁ : LocalTime) (c₂ : ByteString)
    (now₂ : LocalTime) : Prop where
  dir : 0 ∉ cfg.dumpDir
  plain : 0 ∉ c₁ → 0 ∉ c₂ →
    sanitizeContainerId c₁ ≠ sanitizeContainerId c₂ ∨ now₁.toTm ≠ now₂.toTm
  cut : 0 ∈ c₁ → 0 ∈ c₂ → sanitizeContainerId (cString c₁) ≠ sanitizeContainerId (cString c₂)
  cut_plain : 0 ∈ c₁ → 0 ∉ c₂ →
    sanitizeContainerId (cString c₁) ≠ dumpFileName c₂ (nowTimestampForFile now₂)
  plain_cut : 0 ∉ c₁ → 0 ∈ c₂ →
    dumpFileName c₁ (nowTimestampForFile now₁) ≠ sanitizeContainerId (cString c₂)

theorem dumpFileName_ne_iff {c₁ c₂ : ByteString} {tm₁ tm₂ : Tm} :
    dumpFileName c₁ (strftime tm₁) ≠ dumpFileName c₂ (strftime tm₂) ↔
      sanitizeContainerId c₁ ≠ sanitizeContainerId c₂ ∨ tm₁ ≠ tm₂ := by
  constructor
  · intro hne
    by_contra hsame
    obtain ⟨hid, htm⟩ := not_or.1 hsame
    exact hne (by rw [dumpFileName, dumpFileName, not_not.1 hid, not_not.1 htm])
  · rintro hne heq
    obtain ⟨hid, htm⟩ := dumpFileName_inj heq
    rcases hne with h | h
    · exact h hid
    · exact h htm

theorem cString_dumpFilePath_ne_iff (cfg : Setup) (c₁ c₂ : ByteString) (now₁ now₂ : LocalTime) :
    cString (dumpFilePath cfg c₁ (nowTimestampForFile now₁)) ≠
        cString (dumpFilePath cfg c₂ (nowTimestampForFile now₂)) ↔
      NamesApart cfg c₁ now₁ c₂ now₂ := by
  rw [dumpFilePath_eq, dumpFilePath_eq]
  by_cases hdir : 0 ∈ cfg.dumpDir
  · rw [cString_joinPath_of_nul hdir, cString_joinPath_of_nul hdir]
    exact iff_of_false (fun h => h rfl) fun h => h.dir hdir
  · rw [cString_joinPath hdir, cString_joinPath hdir, Ne, joinPath_inj, nowTimestampForFile,
      nowTimestampForFile, cString_dumpFileName, cString_dumpFileName]
    by_cases h₁ : 0 ∈ c₁ <;> by_cases h₂ : 0 ∈ c₂
    · -- both names end before their NUL
      rw [if_pos h₁, if_pos h₂]
      exact ⟨fun h => ⟨hdir, fun hn => absurd h₁ hn, fun _ _ => h, fun _ hn => absurd h₂ hn,
        fun hn => absurd h₁ hn⟩, fun h => h.cut h₁ h₂⟩
    · rw [if_pos h₁, if_neg h₂]
      exact ⟨fun h => ⟨hdir, fun hn => absurd h₁ hn, fun _ hn => absurd hn h₂, fun _ _ => h,
        fun hn => absurd h₁ hn⟩, fun h => h.cut_plain h₁ h₂⟩
    · rw [if_neg h₁, if_pos h₂]
      exact ⟨fun h => ⟨hdir, fun _ hn => absurd h₂ hn, fun hn => absurd hn h₁,
        fun hn => absurd hn h₁, fun _ _ => h⟩, fun h => h.plain_cut h₁ h₂⟩
    · -- both names are complete
      rw [if_neg h₁, if_neg h₂]
      exact ⟨fun h => ⟨hdir, fun _ _ => dumpFileName_ne_iff.1 h, fun hn => absurd hn h₁,
        fun hn => absurd hn h₁, fun _ hn => absurd hn h₂⟩,
        fun h => dumpFileName_ne_iff.2 (h.plain h₁ h₂)⟩

/-- The file of a dump whose request has just succeeded. -/
theorem dumpFile_of_opens (cfg : Setup) (a : AgentState) (c : ByteString) (d : Int32)
    {env : DumpEnv} (h : requestOpens cfg a c env = true) :
    (step cfg a (.request c d env)).1.dumpFile c =
      some (cString (dumpFilePath cfg c env.timestamp)) := by
  have hdump : (step cfg a (.request c d env)).1.dump c = _ :=
    (requestLongDump_of_opens cfg a c d env h).2.2
  rw [AgentState.dumpFile, hdump]
  rfl

/-- Two dumps of a run are written to different files exactly when their requests get names of their
own. -/
theorem dumps_in_different_files_iff (cfg : Setup) (files : FileSystem) (pre mid : List Op)
    (c₁ c₂ : ByteString) (d₁ d₂ : Int32) (env₁ env₂ : DumpEnv) (now₁ now₂ : LocalTime)
    (hts₁ : env₁.timestamp = nowTimestampForFile now₁)
    (hts₂ : env₂.timestamp = nowTimestampForFile now₂)
    (hopens₁ : requestOpens cfg (after cfg (.init files) pre) c₁ env₁ = true)
    (hopens₂ : requestOpens cfg (after cfg (.init files) (pre ++ .request c₁ d₁ env₁ :: mid)) c₂
      env₂ = true) :
    (after cfg (.init files) (pre ++ [.request c₁ d₁ env₁])).dumpFile c₁ ≠
        (after cfg (.init files)
          (pre ++ .request c₁ d₁ env₁ :: mid ++ [.request c₂ d₂ env₂])).dumpFile c₂ ↔
      NamesApart cfg c₁ now₁ c₂ now₂ := by
  rw [after_concat, after_concat, dumpFile_of_opens cfg _ c₁ d₁ hopens₁,
    dumpFile_of_opens cfg _ c₂ d₂ hopens₂, hts₁, hts₂, Ne, Option.some.injEq]
  exact cString_dumpFilePath_ne_iff cfg c₁ c₂ now₁ now₂

/-- A moment of the first second of 2025. -/
def newYear (nanosecond : Nat) (h : nanosecond < 10 ^ 9) : LocalTime where
  year := 2025
  month := 1
  day := 1
  hour := 0
  minute := 0
  second := 0
  month_range := by decide
  day_range := by decide
  hour_lt := by decide
  minute_lt := by decide
  second_le := by decide
  nanosecond := nanosecond
  nanosecond_lt := h

/-- A request in the first second of 2025. -/
def newYearEnv (nanosecond : Nat) (h : nanosecond < 10 ^ 9) : DumpEnv where
  timestamp := nowTimestampForFile (newYear nanosecond h)
  canOpen := true
  monotonicNowNs := 5000000000

/-- Dumps for `a/b` and, half a second later, for `a_b`: the second one truncates the first. -/
theorem slash_and_underscore_share_file :
    (newYear 0 (by decide)).parts ≤ (newYear 500000000 (by decide)).parts ∧
      requestOpens defaultSetup (after defaultSetup (.init Table.empty) []) (ascii "a/b")
        (newYearEnv 0 (by decide)) = true ∧
      requestOpens defaultSetup (after defaultSetup (.init Table.empty)
        ([] ++ .request (ascii "a/b") 10 (newYearEnv 0 (by decide)) :: [])) (ascii "a_b")
        (newYearEnv 500000000 (by decide)) = true ∧
      ¬ (after defaultSetup (.init Table.empty)
          ([] ++ [.request (ascii "a/b") 10 (newYearEnv 0 (by decide))])).dumpFile (ascii "a/b") ≠
        (after defaultSetup (.init Table.empty)
          ([] ++ .request (ascii "a/b") 10 (newYearEnv 0 (by decide)) :: [] ++
            [.request (ascii "a_b") 10 (newYearEnv 500000000 (by decide))])).dumpFile
          (ascii "a_b") := by
  refine ⟨by decide, by decide, by decide, by decide⟩

/-- Dumps for two other containers at these times. -/
theorem web_and_db_apart :
    requestOpens defaultSetup (after defaultSetup (.init Table.empty) []) (ascii "web")
        (newYearEnv 0 (by decide)) = true ∧
      (after defaultSetup (.init Table.empty)
          ([] ++ [.request (ascii "web") 10 (newYearEnv 0 (by decide))])).dumpFile (ascii "web") ≠
        (after defaultSetup (.init Table.empty)
          ([] ++ .request (ascii "web") 10 (newYearEnv 0 (by decide)) :: [] ++
            [.request (ascii "db") 10 (newYearEnv 500000000 (by decide))])).dumpFile
          (ascii "db") := by
  refine ⟨by decide, (dumps_in_different_files_iff defaultSetup Table.empty [] [] (ascii "web")
    (ascii "db") 10 10 _ _ (newYear 0 (by decide)) (newYear 500000000 (by decide)) rfl rfl
    (by decide) (by decide)).2 ?_⟩
  exact ⟨by decide, fun _ _ => .inl (by decide), by decide, by decide, by decide⟩

end DeepKernel.Agent
