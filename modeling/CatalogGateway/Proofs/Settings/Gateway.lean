import CatalogGateway.Proofs.Text.Blank
import CatalogGateway.Settings.Gateway

/-!
# Numbers and switches that cannot be read

A number is written in decimal digits, possibly after a plus sign, and fits 64 bits (`Setting.WritesNumber`); a switch
is written as one of eight words (`Setting.WritesSwitch`).  Blanks around either do not count.  Whatever else an
environment sets for the margin or for stage stripping, the default stands in for it, and the log warns of it
(`settings_fall_back`).
-/

namespace CatalogGateway

namespace Setting

/-! ### Numbers -/

/-- A decimal numeral and its value. -/
inductive Numeral : List Char → Nat → Prop where
  | plain {digits : List Char} (hne : digits ≠ []) (h : ∀ c ∈ digits, c.isDigit = true) :
    Numeral digits (Nat.ofDigitChars 10 digits 0)
  | signed {digits : List Char} (hne : digits ≠ []) (h : ∀ c ∈ digits, c.isDigit = true) :
    Numeral ('+' :: digits) (Nat.ofDigitChars 10 digits 0)

/-- The text is, but for blanks around it, a numeral of a number of 64 bits. -/
def WritesNumber (s : String) (n : Nat) : Prop :=
  ∃ core, Text.Trims s core ∧ Numeral core.toList n ∧ n < UInt64.size

theorem digit?_eq_some_iff {c : Char} {d : Nat} :
    Text.digit? c = some d ↔ c.isDigit = true ∧ d = c.toNat - '0'.toNat := by
  have hdigit : c.isDigit = true ↔ '0' ≤ c ∧ c ≤ '9' := by
    simp only [Char.isDigit, Bool.and_eq_true, decide_eq_true_eq, Char.le_def]
  rw [hdigit, Text.digit?]
  by_cases h : '0' ≤ c ∧ c ≤ '9'
  · simp [h, eq_comm]
  · simp [h]

theorem digit?_eq_none_iff {c : Char} : Text.digit? c = none ↔ c.isDigit = false := by
  cases h : Text.digit? c with
  | none =>
    have hnot : ¬ c.isDigit = true := fun hd => by
      have hsome := digit?_eq_some_iff.2 ⟨hd, rfl⟩
      rw [h] at hsome
      cases hsome
    simpa using hnot
  | some d => simp [(digit?_eq_some_iff.1 h).1]

theorem le_ofDigitChars (digits : List Char) (n : Nat) : n ≤ Nat.ofDigitChars 10 digits n := by
  induction digits generalizing n with
  | nil => simp
  | cons c rest ih =>
    have hrest := ih (10 * n + (c.toNat - '0'.toNat))
    rw [Nat.ofDigitChars_cons]
    omega

/-- Digits are read as the number that they write, if it fits. -/
theorem readDigits_eq_ok_iff {cs : List Char} {n m : Nat} (hn : n < numberBound) : readDigits n cs = .ok m ↔
    (∀ c ∈ cs, c.isDigit = true) ∧ m = Nat.ofDigitChars 10 cs n ∧ m < numberBound := by
  induction cs generalizing n with
  | nil =>
    rw [readDigits, Except.ok.injEq, Nat.ofDigitChars_nil]
    constructor
    · rintro rfl
      exact ⟨by simp, rfl, hn⟩
    · exact fun h => h.2.1.symm
  | cons c rest ih =>
    rw [readDigits, List.forall_mem_cons, Nat.ofDigitChars_cons]
    cases hd : Text.digit? c with
    | none => simp [digit?_eq_none_iff.1 hd]
    | some d =>
      obtain ⟨hdigit, rfl⟩ := digit?_eq_some_iff.1 hd
      have hcomm : 10 * n + (c.toNat - '0'.toNat) = n * 10 + (c.toNat - '0'.toNat) := by omega
      rw [hcomm]
      dsimp only
      by_cases hfits : n * 10 + (c.toNat - '0'.toNat) < numberBound
      · rw [if_pos hfits, ih hfits]
        simp [hdigit]
      · -- further digits do not make the number smaller
        have hle := le_ofDigitChars rest (n * 10 + (c.toNat - '0'.toNat))
        rw [if_neg hfits]
        constructor
        · nofun
        · rintro ⟨-, rfl, hlt⟩
          omega

theorem numeral_signed_iff {cs : List Char} {n : Nat} : Numeral ('+' :: cs) n ↔
    cs ≠ [] ∧ (∀ c ∈ cs, c.isDigit = true) ∧ n = Nat.ofDigitChars 10 cs 0 := by
  constructor
  · intro h
    cases h with
    | plain hne hdigits => exact absurd (hdigits '+' List.mem_cons_self) (by decide)
    | signed hne hdigits => exact ⟨hne, hdigits, rfl⟩
  · rintro ⟨hne, hdigits, rfl⟩
    exact .signed hne hdigits

theorem numeral_plain_iff {cs : List Char} {n : Nat} (hsign : cs.head? ≠ some '+') : Numeral cs n ↔
    cs ≠ [] ∧ (∀ c ∈ cs, c.isDigit = true) ∧ n = Nat.ofDigitChars 10 cs 0 := by
  constructor
  · intro h
    cases h with
    | plain hne hdigits => exact ⟨hne, hdigits, rfl⟩
    | signed hne hdigits => exact absurd rfl hsign
  · rintro ⟨hne, hdigits, rfl⟩
    exact .plain hne hdigits

/-- Numbers are read from their numerals, and from nothing else. -/
theorem readNumber_eq_ok_iff {cs : List Char} {n : Nat} :
    readNumber cs = .ok n ↔ Numeral cs n ∧ n < numberBound := by
  have hzero : 0 < numberBound := by decide
  unfold readNumber
  split
  case h_1 =>
    rw [numeral_plain_iff (by simp)]
    simp
  case h_2 => simp [numeral_signed_iff]
  case h_3 rest hrest =>
    have hne : rest ≠ [] := fun heq => hrest (by rw [heq])
    rw [readDigits_eq_ok_iff hzero, numeral_signed_iff]
    simp [hne, and_assoc]
  case h_4 hempty _ hsigned =>
    have hne : cs ≠ [] := hempty
    have hsign : cs.head? ≠ some '+' := by
      intro hhead
      obtain ⟨rest, rfl⟩ := List.head?_eq_some_iff.1 hhead
      exact hsigned rest rfl
    rw [readDigits_eq_ok_iff hzero, numeral_plain_iff hsign]
    simp [hne, and_assoc]

theorem number_eq_ok_iff {s : String} {n : Nat} : number s = .ok n ↔ WritesNumber s n := by
  rw [number, readNumber_eq_ok_iff]
  simp only [WritesNumber, Text.trims_iff, exists_eq_left']
  rfl

theorem WritesNumber.unique (s : String) (m n : Nat) (hm : WritesNumber s m) (hn : WritesNumber s n) : m = n := by
  rw [← number_eq_ok_iff] at hm hn
  rw [hm] at hn
  exact Except.ok.inj hn

/-! ### Switches -/

/-- The words for the two states of a switch. -/
def switchWords : Bool → List String
  | true => ["1", "true", "yes", "on"]
  | false => ["0", "false", "no", "off"]

/-- The text is, but for blanks around it and for the case of ASCII letters, a word for the state of a switch. -/
def WritesSwitch (s : String) (b : Bool) : Prop := ∃ core, Text.Trims s core ∧ Text.lowercase core ∈ switchWords b

theorem switch?_eq_some_iff {s : String} {b : Bool} : switch? s = some b ↔ WritesSwitch s b := by
  have hdisjoint : ∀ word ∈ switchWords true, word ∉ switchWords false := by decide
  simp only [WritesSwitch, Text.trims_iff, exists_eq_left']
  unfold switch?
  dsimp only
  generalize Text.lowercase (Text.trim s) = word
  have htrue : ["1", "true", "yes", "on"].contains word = true ↔ word ∈ switchWords true := List.contains_iff_mem
  have hfalse : ["0", "false", "no", "off"].contains word = true ↔ word ∈ switchWords false := List.contains_iff_mem
  simp only [htrue, hfalse]
  by_cases hon : word ∈ switchWords true
  · have hoff := hdisjoint word hon
    cases b <;> simp [hon, hoff]
  · by_cases hoff : word ∈ switchWords false
    · cases b <;> simp [hon, hoff]
    · cases b <;> simp [hon, hoff]

theorem WritesSwitch.unique (s : String) (a b : Bool) (ha : WritesSwitch s a) (hb : WritesSwitch s b) : a = b := by
  rw [← switch?_eq_some_iff] at ha hb
  rw [ha] at hb
  exact Option.some.inj hb

end Setting

/-! ### Values and warnings -/

/-- The entry warns that a text cannot be read as the value of a variable. -/
structure LogEntry.WarnsOf (entry : LogEntry) (name raw : String) : Prop where
  level : entry.level = .warn
  message : entry.message = "invalid " ++ name ++ ", using default"
  value : ("value", .text raw) ∈ entry.fields

namespace Environment

/-- There is one warning if the variable is set to a text that is not valid, and else none. -/
inductive Warnings (env : Environment) (name : String) (valid : String → Prop) : List LogEntry → Prop where
  | invalid {raw : String} {entry : LogEntry} (h : env.text? name = some raw) (hinvalid : ¬ valid raw)
    (hentry : entry.WarnsOf name raw) : Warnings env name valid [entry]
  | fine (h : ∀ raw, env.text? name = some raw → valid raw) : Warnings env name valid []

/-- What comes of reading a setting; `writes` tells which texts write which values. -/
inductive Reads {α : Type} (env : Environment) (name : String) (writes : String → α → Prop) (default : α) :
    Logged LogEntry α → Prop where
  | unset (h : env.text? name = none) : Reads env name writes default ⟨default, []⟩
  | written {raw : String} {a : α} (h : env.text? name = some raw) (ha : writes raw a) :
    Reads env name writes default ⟨a, []⟩
  | ignored {raw : String} {entry : LogEntry} (h : env.text? name = some raw) (hinvalid : ¬ ∃ a, writes raw a)
    (hentry : entry.WarnsOf name raw) : Reads env name writes default ⟨default, [entry]⟩

namespace Reads

variable {α : Type} {env : Environment} {name : String} {writes : String → α → Prop} {default : α}
  {read : Logged LogEntry α}

theorem value_of_writes (h : env.Reads name writes default read)
    (hunique : ∀ raw a b, writes raw a → writes raw b → a = b) {raw : String} {a : α}
    (hraw : env.text? name = some raw) (ha : writes raw a) : read.value = a := by
  cases h with
  | unset hunset =>
    rw [hunset] at hraw
    cases hraw
  | written hraw' hb =>
    rw [hraw'] at hraw
    obtain rfl := Option.some.inj hraw
    exact hunique _ _ _ hb ha
  | ignored hraw' hinvalid =>
    rw [hraw'] at hraw
    obtain rfl := Option.some.inj hraw
    exact absurd ⟨a, ha⟩ hinvalid

theorem value_of_not_writes (h : env.Reads name writes default read)
    (hnone : ∀ raw a, env.text? name = some raw → ¬ writes raw a) : read.value = default := by
  cases h with
  | unset hunset => rfl
  | written hraw ha => exact absurd ha (hnone _ _ hraw)
  | ignored hraw hinvalid hentry => rfl

theorem warnings (h : env.Reads name writes default read) :
    env.Warnings name (fun raw => ∃ a, writes raw a) read.log := by
  cases h with
  | unset hunset =>
    refine .fine fun raw hraw => ?_
    rw [hunset] at hraw
    cases hraw
  | @written raw a hraw ha =>
    refine .fine fun raw' hraw' => ?_
    rw [hraw] at hraw'
    exact ⟨a, Option.some.inj hraw' ▸ ha⟩
  | ignored hraw hinvalid hentry => exact .invalid hraw hinvalid hentry

end Reads

end Environment

namespace GatewaySettings

theorem reads_readMargin (env : Environment) :
    env.Reads "CATALOG_TIMEOUT_MARGIN_MS" Setting.WritesNumber 250 (readMargin env) := by
  unfold readMargin
  cases hraw : env.text? "CATALOG_TIMEOUT_MARGIN_MS" with
  | none => exact .unset hraw
  | some raw =>
    dsimp only
    cases hnumber : Setting.number raw with
    | ok n => exact .written hraw (Setting.number_eq_ok_iff.1 hnumber)
    | error e =>
      refine .ignored hraw ?_ ⟨rfl, rfl, by simp [LogEntry.fields]⟩
      rintro ⟨n, hn⟩
      rw [Setting.number_eq_ok_iff.2 hn] at hnumber
      cases hnumber

theorem reads_readStripStage (env : Environment) :
    env.Reads "CATALOG_STRIP_STAGE" Setting.WritesSwitch true (readStripStage env) := by
  unfold readStripStage
  cases hraw : env.text? "CATALOG_STRIP_STAGE" with
  | none => exact .unset hraw
  | some raw =>
    dsimp only
    cases hswitch : Setting.switch? raw with
    | some b => exact .written hraw (Setting.switch?_eq_some_iff.1 hswitch)
    | none =>
      refine .ignored hraw ?_ ⟨rfl, rfl, by simp [LogEntry.fields]⟩
      rintro ⟨b, hb⟩
      rw [Setting.switch?_eq_some_iff.2 hb] at hswitch
      cases hswitch

/-- What is read of an environment for the margin and for stage stripping. -/
structure FallsBack (env : Environment) (read : Logged LogEntry GatewaySettings) : Prop where
  margin : ∀ raw n, env.text? "CATALOG_TIMEOUT_MARGIN_MS" = some raw → Setting.WritesNumber raw n →
    read.value.margin = n
  defaultMargin : (∀ raw n, env.text? "CATALOG_TIMEOUT_MARGIN_MS" = some raw → ¬ Setting.WritesNumber raw n) →
    read.value.margin = 250
  stripStage : ∀ raw b, env.text? "CATALOG_STRIP_STAGE" = some raw → Setting.WritesSwitch raw b →
    read.value.stripStage = b
  defaultStripStage : (∀ raw b, env.text? "CATALOG_STRIP_STAGE" = some raw → ¬ Setting.WritesSwitch raw b) →
    read.value.stripStage = true
  /-- Nothing is recorded but at most one warning for each of the two, that for the margin first. -/
  log : ∃ first second, read.log = first ++ second ∧
    env.Warnings "CATALOG_TIMEOUT_MARGIN_MS" (fun raw => ∃ n, Setting.WritesNumber raw n) first ∧
    env.Warnings "CATALOG_STRIP_STAGE" (fun raw => ∃ b, Setting.WritesSwitch raw b) second

end GatewaySettings

/-- Whatever the environment, there are settings: what it sets for the margin and for stage stripping is taken if it can
be read, and the log warns of exactly what cannot. -/
theorem settings_fall_back (env : Environment) : GatewaySettings.FallsBack env (GatewaySettings.ofEnvironment env) := by
  have hmargin := GatewaySettings.reads_readMargin env
  have hstrip := GatewaySettings.reads_readStripStage env
  have hlog : (GatewaySettings.ofEnvironment env).log =
      (GatewaySettings.readMargin env).log ++ (GatewaySettings.readStripStage env).log := by
    simp [GatewaySettings.ofEnvironment]
  constructor
  case margin => exact fun raw n => hmargin.value_of_writes Setting.WritesNumber.unique
  case defaultMargin => exact hmargin.value_of_not_writes
  case stripStage => exact fun raw b => hstrip.value_of_writes Setting.WritesSwitch.unique
  case defaultStripStage => exact hstrip.value_of_not_writes
  case log => exact ⟨_, _, hlog, hmargin.warnings, hstrip.warnings⟩

/-- Leading zeros do not count, and the greatest number of 64 bits is one. -/
example : GatewaySettings.ofEnvironment ⟨[("CATALOG_TIMEOUT_MARGIN_MS", Text.Utf8.encode " +018446744073709551615"),
    ("CATALOG_STRIP_STAGE", Text.Utf8.encode "maybe")]⟩ =
    ⟨{ margin := 18446744073709551615 }, [.stripStageIgnored "maybe"]⟩ := by rfl

end CatalogGateway
