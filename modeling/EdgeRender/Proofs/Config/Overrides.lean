import EdgeRender.Config.Override
import EdgeRender.Proofs.Text.Words

/-! # Settings over a configuration

Settings that are given from outside are laid over a configuration. They are accepted just if
each that is given spells a value; the fields of those given then have the values spelled, and
the others stay. What a configuration is written with spells it, and settings over settings are
settings again (`takesSettings`).
-/
namespace EdgeRender

open EdgeRender.Text

/-! ## What the texts spell -/

/-- A setting that is looked up by names is read of the texts that name it. -/
theorem parseSetting_eq_ok_iff {ofName? : String → Option α} {names : α → List String}
    (hnames : ∀ s x, ofName? s = some x ↔ s ∈ names x)
    (hletters : ∀ x, ∀ name ∈ names x, ∀ d ∈ name.toList, IsNameLetter d)
    {setting text : String} {x : α} :
    parseSetting setting ofName? (lowerAscii (trim text)) = .ok x ↔ Names (names x) text := by
  rw [names_iff (hletters x), ← hnames, parseSetting]
  cases ofName? (lowerAscii (trim text)) with
  | none => simp
  | some y => simp

namespace RuntimeMode

def names : RuntimeMode → List String
  | .development => ["development", "dev"]
  | .production => ["production", "prod"]

/-- The texts by which a mode may be given. -/
def Spelled (m : RuntimeMode) : String → Prop := Names m.names

theorem ofName?_eq_some_iff (s : String) (m : RuntimeMode) : ofName? s = some m ↔ s ∈ m.names := by
  constructor
  · intro hname
    unfold ofName? at hname
    split at hname <;> cases hname <;> decide
  · intro hmem
    cases m <;> rcases List.mem_pair.mp hmem with rfl | rfl <;> rfl

theorem isNameLetter_of_mem (m : RuntimeMode) :
    ∀ name ∈ m.names, ∀ d ∈ name.toList, IsNameLetter d :=
  isNameLetter_of_all (by cases m <;> decide)

theorem parse_eq_ok_iff {text : String} {m : RuntimeMode} :
    RuntimeMode.parse text = .ok m ↔ m.Spelled text :=
  parseSetting_eq_ok_iff ofName?_eq_some_iff isNameLetter_of_mem

end RuntimeMode

namespace HostModel

def names : HostModel → List String
  | .longRunning => ["long-running", "server"]
  | .ephemeral => ["ephemeral", "serverless"]

/-- The texts by which a host model may be given. -/
def Spelled (h : HostModel) : String → Prop := Names h.names

theorem ofName?_eq_some_iff (s : String) (h : HostModel) : ofName? s = some h ↔ s ∈ h.names := by
  constructor
  · intro hname
    unfold ofName? at hname
    split at hname <;> cases hname <;> decide
  · intro hmem
    cases h <;> rcases List.mem_pair.mp hmem with rfl | rfl <;> rfl

theorem isNameLetter_of_mem (h : HostModel) :
    ∀ name ∈ h.names, ∀ d ∈ name.toList, IsNameLetter d :=
  isNameLetter_of_all (by cases h <;> decide)

theorem parse_eq_ok_iff {text : String} {h : HostModel} :
    HostModel.parse text = .ok h ↔ h.Spelled text :=
  parseSetting_eq_ok_iff ofName?_eq_some_iff isNameLetter_of_mem

end HostModel

/-- The texts by which a number of milliseconds may be given. -/
def MillisSpelled (ms : UInt64) : String → Prop := Padded (IsNumeral ms.toNat)

/-- What is read as digits are the digits of a number, a plus sign put aside. -/
theorem naturalDigits?_eq_some_iff {word digits : List Char} :
    naturalDigits? word = some digits ↔ (word = digits ∨ word = '+' :: digits) ∧
      digits ≠ [] ∧ ∀ c ∈ digits, c.isDigit = true := by
  have hread : naturalDigits? word = some digits ↔
      (if word.head? = some '+' then word.drop 1 else word) = digits ∧
        digits ≠ [] ∧ ∀ c ∈ digits, c.isDigit = true := by
    unfold naturalDigits?
    generalize (if word.head? = some '+' then word.drop 1 else word) = read
    dsimp only
    constructor
    · intro h
      split at h
      · next hgood =>
        cases h
        exact ⟨rfl, by simpa using hgood⟩
      · cases h
    · rintro ⟨rfl, hne, hdigits⟩
      exact if_pos (by simpa using And.intro hne hdigits)
  rw [hread]
  refine and_congr_left fun ⟨hne, hdigits⟩ => ?_
  constructor
  · rintro rfl
    split
    · next hplus =>
      obtain ⟨rest, rfl⟩ : ∃ rest, word = '+' :: rest := List.head?_eq_some_iff.mp hplus
      exact .inr rfl
    · exact .inl rfl
  · rintro (rfl | rfl)
    · rw [if_neg]
      intro hplus
      exact absurd (hdigits '+' (List.mem_of_mem_head? hplus)) (by decide)
    · rfl

/-- A number is that of a word of 64 bits just if it fits, and the word is made of it. -/
theorem eq_toNat_iff {n : Nat} {ms : UInt64} :
    n = ms.toNat ↔ n < UInt64.size ∧ UInt64.ofNat n = ms := by
  constructor
  · rintro rfl
    exact ⟨ms.toNat_lt, UInt64.ofNat_toNat⟩
  · rintro ⟨hlt, rfl⟩
    exact (UInt64.toNat_ofNat_of_lt hlt).symm

theorem parseWord64?_eq_some_iff {word : List Char} {ms : UInt64} :
    parseWord64? word = some ms ↔ IsNumeral ms.toNat word := by
  have hread : parseWord64? word = some ms ↔
      ∃ digits, naturalDigits? word = some digits ∧
        valueFrom 0 (digits.map fun c => c.toNat - 48) = ms.toNat := by
    unfold parseWord64?
    cases naturalDigits? word with
    | none => simp
    | some digits =>
      simp [eq_toNat_iff, valueFrom, List.foldl_map]
  simp only [hread, naturalDigits?_eq_some_iff, and_assoc, ← isDecimal_iff]
  constructor
  · rintro ⟨digits, rfl | rfl, h⟩
    · exact .bare h
    · exact .plus h
  · rintro (h | h)
    · exact ⟨_, .inl rfl, h⟩
    · exact ⟨_, .inr rfl, h⟩

theorem parseTimeout_eq_ok_iff {text : String} {ms : UInt64} :
    parseTimeout text = .ok ms ↔ MillisSpelled ms text := by
  rw [MillisSpelled, padded_iff fun word => isBlank_eq_false_of_isNumeral,
    ← parseWord64?_eq_some_iff]
  -- the equation of `parseTimeout` takes seconds to make, for the text in its fault
  delta parseTimeout
  cases parseWord64? (trim text).toList with
  | none => simp
  | some ms' => simp

/-! ## What becomes of the fields -/

/-- What becomes of a field. A text that is given for it spells its value, and without one it
stays as it was. -/
inductive Settles (spelled : α → String → Prop) (old : α) : Option String → α → Prop where
  | kept : Settles spelled old none old
  | given {text : String} {x : α} : spelled x text → Settles spelled old (some text) x

theorem overridden_eq_ok_iff {parse : String → Except SettingFault α}
    {spelled : α → String → Prop} (h : ∀ {text x}, parse text = .ok x ↔ spelled x text)
    {old new : α} {given : Option String} :
    overridden parse old given = .ok new ↔ Settles spelled old given new := by
  cases given with
  | none =>
    constructor
    · rintro ⟨⟩
      exact .kept
    · rintro ⟨⟩
      rfl
  | some text =>
    constructor
    · exact fun hnew => .given (h.mp hnew)
    · rintro (_ | hspelled)
      exact h.mpr hspelled

/-- Some value is spelled by the text that is given, if there is one. -/
theorem exists_settles_iff {spelled : α → String → Prop} {old : α} {given : Option String} :
    (∃ new, Settles spelled old given new) ↔ ∀ text, given = some text → ∃ x, spelled x text := by
  constructor
  · rintro ⟨_, _ | hspelled⟩ text htext
    · cases htext
    · cases htext
      exact ⟨_, hspelled⟩
  · intro h
    cases given with
    | none => exact ⟨old, .kept⟩
    | some text =>
      obtain ⟨x, hx⟩ := h text rfl
      exact ⟨x, .given hx⟩

/-- What was settled stays when settings that take its place are looked up first. -/
theorem overridden_or {parse : String → Except SettingFault α} {old mid : α}
    {lower : Option String} (h : overridden parse old lower = .ok mid) (upper : Option String) :
    overridden parse mid upper = overridden parse old (upper.or lower) := by
  cases upper with
  | none => exact h.symm
  | some text => rfl

/-- Look a setting up in `upper`, and in `lower` if it is not there. -/
def layered (upper lower : String → Option String) (key : String) : Option String :=
  (upper key).or (lower key)

namespace RuntimeConfig

/-- Each setting that is given spells a value of its kind. -/
structure Acceptable (lookup : String → Option String) : Prop where
  mode : ∀ text, lookup modeVariable = some text → ∃ m : RuntimeMode, m.Spelled text
  host : ∀ text, lookup hostVariable = some text → ∃ h : HostModel, h.Spelled text
  timeout : ∀ text, lookup timeoutVariable = some text → ∃ ms, MillisSpelled ms text

/-- One configuration comes of another by the settings given: each field has the value that is
spelled for it, or else stays. The format of the log always stays. -/
structure Follows (b : RuntimeConfig) (lookup : String → Option String) (c : RuntimeConfig) :
    Prop where
  mode : Settles RuntimeMode.Spelled b.mode (lookup modeVariable) c.mode
  host : Settles HostModel.Spelled b.host (lookup hostVariable) c.host
  timeout : Settles MillisSpelled b.taskTimeoutMillis (lookup timeoutVariable) c.taskTimeoutMillis
  logFormat : c.logFormat = b.logFormat

variable {b c mid : RuntimeConfig} {lookup upper lower : String → Option String}

/-- The settings are taken one by one. -/
theorem withOverrides_eq_ok_iff_overridden : b.withOverrides lookup = .ok c ↔
    overridden RuntimeMode.parse b.mode (lookup modeVariable) = .ok c.mode ∧
      overridden HostModel.parse b.host (lookup hostVariable) = .ok c.host ∧
      overridden parseTimeout b.taskTimeoutMillis (lookup timeoutVariable)
        = .ok c.taskTimeoutMillis ∧
      c.logFormat = b.logFormat := by
  unfold withOverrides
  cases overridden RuntimeMode.parse b.mode (lookup modeVariable) with
  | error fault => simp [bind, Except.bind]
  | ok mode =>
    cases overridden HostModel.parse b.host (lookup hostVariable) with
    | error fault => simp [bind, Except.bind]
    | ok host =>
      cases overridden parseTimeout b.taskTimeoutMillis (lookup timeoutVariable) with
      | error fault => simp [bind, Except.bind]
      | ok millis =>
        obtain ⟨mode', host', millis', logFormat'⟩ := c
        simp [bind, Except.bind, pure, Except.pure, eq_comm]

theorem withOverrides_eq_ok_iff : b.withOverrides lookup = .ok c ↔ b.Follows lookup c := by
  rw [withOverrides_eq_ok_iff_overridden, overridden_eq_ok_iff RuntimeMode.parse_eq_ok_iff,
    overridden_eq_ok_iff HostModel.parse_eq_ok_iff, overridden_eq_ok_iff parseTimeout_eq_ok_iff]
  exact ⟨fun ⟨hmode, hhost, htimeout, hformat⟩ => ⟨hmode, hhost, htimeout, hformat⟩,
    fun h => ⟨h.mode, h.host, h.timeout, h.logFormat⟩⟩

/-- Whether settings are accepted has nothing to do with the configuration they are laid over. -/
theorem exists_withOverrides_iff :
    (∃ c, b.withOverrides lookup = .ok c) ↔ Acceptable lookup := by
  simp only [withOverrides_eq_ok_iff]
  constructor
  · rintro ⟨c, h⟩
    exact ⟨exists_settles_iff.mp ⟨_, h.mode⟩, exists_settles_iff.mp ⟨_, h.host⟩,
      exists_settles_iff.mp ⟨_, h.timeout⟩⟩
  · intro h
    obtain ⟨mode, hmode⟩ := exists_settles_iff.mpr h.mode
    obtain ⟨host, hhost⟩ := exists_settles_iff.mpr h.host
    obtain ⟨taskTimeoutMillis, htimeout⟩ := exists_settles_iff.mpr h.timeout
    exact ⟨{ b with mode, host, taskTimeoutMillis }, hmode, hhost, htimeout, rfl⟩

/-- Settings over settings that were accepted are the settings of both, the upper ones first. -/
theorem withOverrides_withOverrides (h : b.withOverrides lower = .ok mid) :
    mid.withOverrides upper = b.withOverrides (layered upper lower) := by
  obtain ⟨hmode, hhost, htimeout, hformat⟩ := withOverrides_eq_ok_iff_overridden.mp h
  simp only [withOverrides, overridden_or hmode, overridden_or hhost, overridden_or htimeout,
    hformat, layered]

theorem layered_self (lookup : String → Option String) : layered lookup lookup = lookup := by
  funext key
  exact Option.or_self

/-- Given once more, settings change nothing. -/
theorem withOverrides_again (b : RuntimeConfig) (lookup : String → Option String) :
    (b.withOverrides lookup).bind (·.withOverrides lookup) = b.withOverrides lookup := by
  cases h : b.withOverrides lookup with
  | error fault => rfl
  | ok c =>
    show c.withOverrides lookup = .ok c
    rw [withOverrides_withOverrides h, layered_self, h]

end RuntimeConfig

/-! ## What a configuration is written with -/

theorem RuntimeMode.spelled_name (m : RuntimeMode) : m.Spelled m.name :=
  padded_self ⟨m.name, by cases m <;> decide, inAnyCase_self m.name⟩

theorem HostModel.spelled_name (h : HostModel) : h.Spelled h.name :=
  padded_self ⟨h.name, by cases h <;> decide, inAnyCase_self h.name⟩

theorem millisSpelled_toString (ms : UInt64) : MillisSpelled ms (toString ms.toNat) := by
  refine padded_self (.bare ?_)
  rw [Nat.toString_eq_ofList_toDigits, String.toList_ofList]
  exact isDecimal_toDigits ms.toNat

open RuntimeConfig

structure TakesSettings (b : RuntimeConfig) (lookup : String → Option String) : Prop where
  /-- They are accepted just if each that is given spells a value of its kind. -/
  accepted : (∃ c, b.withOverrides lookup = .ok c) ↔ Acceptable lookup
  /-- The fields of those given have the values that are spelled, and nothing else changes. -/
  fields : ∀ c, b.withOverrides lookup = .ok c ↔ b.Follows lookup c
  /-- Given twice, they do what they do once. -/
  again : (b.withOverrides lookup).bind (·.withOverrides lookup) = b.withOverrides lookup
  /-- Over settings that were accepted they do what both do when they are looked up first. -/
  layers : ∀ lower mid, b.withOverrides lower = .ok mid →
    mid.withOverrides lookup = b.withOverrides (layered lookup lower)
  /-- The texts that a configuration is written with give its mode, its host and its time limit,
  whatever there was before. -/
  written : ∀ c : RuntimeConfig, lookup modeVariable = some c.mode.name →
    lookup hostVariable = some c.host.name →
    lookup timeoutVariable = some (toString c.taskTimeoutMillis.toNat) →
    b.withOverrides lookup = .ok { c with logFormat := b.logFormat }

/-- Settings are accepted if each that is given is a name of its kind in any letter case, or a
decimal number that fits 64 bits, with blanks around it; a plus sign and zeros may stand in front
of the number. Then they change their own fields, the same when they are given again, and those
laid over others hide them. What any configuration is written with is read as it was. -/
theorem takesSettings (b : RuntimeConfig) (lookup : String → Option String) :
    TakesSettings b lookup where
  accepted := exists_withOverrides_iff
  fields _ := withOverrides_eq_ok_iff
  again := withOverrides_again b lookup
  layers _ _ h := withOverrides_withOverrides h
  written := by
    intro c hmode hhost htimeout
    rw [withOverrides_eq_ok_iff]
    constructor
    · rw [hmode]
      exact .given c.mode.spelled_name
    · rw [hhost]
      exact .given c.host.spelled_name
    · rw [htimeout]
      exact .given (millisSpelled_toString c.taskTimeoutMillis)
    · rfl

/-- Blanks, letter case, a plus sign and zeros make no difference. -/
example :
    let lookup (key : String) : Option String :=
      if key = modeVariable then some " Prod\n"
      else if key = timeoutVariable then some "+007" else none
    withOverrides { mode := .development } lookup
      = .ok { mode := .production, taskTimeoutMillis := 7 } := rfl

end EdgeRender
