import CatalogGateway.Proofs.Lists
import CatalogGateway.Proofs.Text.Pieces
import CatalogGateway.Settings.Catalog

/-!
# The references that are configured

An environment asks for a default branch (`Environment.DefaultBranch`) and lists further references
(`Environment.ListsReferences`).  It is accepted exactly if all these names are names of references
(`CatalogSettings.ofEnvironment_eq_ok`), and of others the first that is none is told
(`CatalogSettings.ofEnvironment_eq_error`); the settings have each name once, the default branch first (`settings_read`).
-/

namespace CatalogGateway

/-- What makes a text the name of a reference. -/
structure ReferenceName (name : String) : Prop where
  first : ∃ c, name.toList.head? = some c ∧ c.isAlpha = true
  chars : ∀ c ∈ name.toList, isReferenceChar c = true
  noDoubleDot : hasDoubleDot name.toList = false
  last : name.toList.getLast? ≠ some '/'

theorem hasDoubleDot_eq_true_iff {cs : List Char} : hasDoubleDot cs = true ↔ ['.', '.'] <:+: cs := by
  fun_induction hasDoubleDot cs with
  | case1 rest => exact iff_of_true rfl ⟨[], rest, rfl⟩
  | case2 c rest hne ih =>
    have hprefix : ¬ ['.', '.'] <+: c :: rest := by
      rintro ⟨more, heq⟩
      obtain ⟨rfl, rfl⟩ := List.cons.inj heq
      exact hne more rfl rfl
    rw [ih, List.infix_cons_iff, or_iff_right hprefix]
  | case3 => simp

theorem isReferenceName_iff {name : String} : isReferenceName name = true ↔ ReferenceName name := by
  unfold isReferenceName
  simp only [Bool.and_eq_true, Option.any_eq_true, List.all_eq_true, Bool.not_eq_true', decide_eq_true_eq]
  constructor
  · rintro ⟨⟨⟨hfirst, hchars⟩, hdots⟩, hlast⟩
    exact ⟨hfirst, hchars, hdots, hlast⟩
  · rintro ⟨hfirst, hchars, hdots, hlast⟩
    exact ⟨⟨⟨hfirst, hchars⟩, hdots⟩, hlast⟩

/-- The names of references, letter by letter. -/
theorem referenceName_iff {name : String} : ReferenceName name ↔
    (∃ c, name.toList.head? = some c ∧ c.isAlpha = true) ∧
      (∀ c ∈ name.toList, c.isAlphanum = true ∨ c ∈ ['.', '_', '/', '-']) ∧ ¬ ['.', '.'] <:+: name.toList ∧
      ¬ ['/'] <:+ name.toList := by
  have hchar : ∀ c, isReferenceChar c = true ↔ c.isAlphanum = true ∨ c ∈ ['.', '_', '/', '-'] := by
    intro c
    simp [isReferenceChar, or_assoc]
  have hlast : name.toList.getLast? = some '/' ↔ ['/'] <:+ name.toList := by
    rw [List.getLast?_eq_some_iff]
    exact exists_congr fun front => eq_comm
  simp only [← hchar, ← hlast, ← hasDoubleDot_eq_true_iff, Bool.not_eq_true]
  exact ⟨fun h => ⟨h.first, h.chars, h.noDoubleDot, h.last⟩, fun h => ⟨h.1, h.2.1, h.2.2.1, h.2.2.2⟩⟩

theorem checkReferenceName_eq_ok {name : String} : checkReferenceName name = .ok () ↔ ReferenceName name := by
  unfold checkReferenceName
  rw [← isReferenceName_iff]
  split
  · rename_i h
    simp [h]
  · rename_i h
    simp [h]

theorem checkReferenceName_eq_error {name : String} {error : ReferenceError} :
    checkReferenceName name = .error error ↔ ¬ ReferenceName name ∧ error.name = name := by
  obtain ⟨other⟩ := error
  unfold checkReferenceName
  rw [← isReferenceName_iff]
  split
  · rename_i h
    simp [h]
  · rename_i h
    simp [h, eq_comm]

namespace ReferenceName

variable {name : String}

theorem not_mem (h : ReferenceName name) {c : Char} (hc : isReferenceChar c = false) : c ∉ name.toList := by
  intro hmem
  rw [h.chars c hmem] at hc
  cases hc

theorem head?_ne (h : ReferenceName name) : name.toList.head? ≠ some '/' := by
  obtain ⟨c, hhead, halpha⟩ := h.first
  rw [hhead]
  intro hslash
  rw [Option.some.inj hslash] at halpha
  cases halpha

end ReferenceName

variable {env : Environment} {settings : CatalogSettings} {name : String}

namespace CatalogSettings

/-- The names that the environment asks for, the default branch first. -/
def readNames (env : Environment) : List String := readDefaultBranch env :: readReferences env

theorem ofEnvironment_eq_ok : ofEnvironment env = .ok settings ↔
    (∀ name ∈ readNames env, ReferenceName name) ∧ settings = ⟨readDefaultBranch env, (readNames env).eraseDups⟩ := by
  have hcheck : (readNames env).forM checkReferenceName = .ok () ↔ ∀ name ∈ readNames env, ReferenceName name :=
    forM_eq_ok.trans (forall₂_congr fun _ _ => checkReferenceName_eq_ok)
  have hof : ofEnvironment env = (readNames env).forM checkReferenceName >>= fun _ =>
      .ok ⟨readDefaultBranch env, (readNames env).eraseDups⟩ := rfl
  rw [hof, ← hcheck]
  cases (readNames env).forM checkReferenceName with
  | error error => simp [bind, Except.bind]
  | ok u => simp [bind, Except.bind, eq_comm]

theorem referenceName_of_mem (h : ofEnvironment env = .ok settings) (hname : name ∈ settings.references) :
    ReferenceName name := by
  obtain ⟨hnames, rfl⟩ := ofEnvironment_eq_ok.1 h
  exact hnames name (List.mem_eraseDups.1 hname)

theorem reference?_eq (settings : CatalogSettings) (name : String) :
    settings.reference? name = if name ∈ settings.references then some name else none := by
  unfold reference?
  by_cases hmem : name ∈ settings.references
  · cases hfind : settings.references.find? (· = name) with
    | none =>
      have hne := List.find?_eq_none.1 hfind name hmem
      simp at hne
    | some found =>
      have heq := List.find?_some hfind
      rw [of_decide_eq_true heq, if_pos hmem]
  · rw [if_neg hmem, List.find?_eq_none]
    intro other hother heq
    rw [← of_decide_eq_true heq] at hmem
    exact hmem hother

/-- An environment is refused for the first name that is none of a reference. -/
theorem ofEnvironment_eq_error {error : ReferenceError} : ofEnvironment env = .error error ↔
    FirstIn (fun name => ¬ ReferenceName name) (readNames env) error.name := by
  have hinvalid : (fun name => ∃ e, checkReferenceName name = .error e) = fun name => ¬ ReferenceName name := by
    funext name
    refine propext ⟨fun ⟨e, he⟩ => (checkReferenceName_eq_error.1 he).1, fun hnot => ?_⟩
    exact ⟨⟨name⟩, checkReferenceName_eq_error.2 ⟨hnot, rfl⟩⟩
  have hof : ofEnvironment env = (readNames env).forM checkReferenceName >>= fun _ =>
      .ok ⟨readDefaultBranch env, (readNames env).eraseDups⟩ := rfl
  rw [hof, bind_eq_error_iff, forM_eq_error_iff, hinvalid]
  simp only [checkReferenceName_eq_error, reduceCtorEq, and_false, exists_false, or_false]
  constructor
  · rintro ⟨_, hfirst, -, rfl⟩
    exact hfirst
  · exact fun hfirst => ⟨error.name, hfirst, hfirst.holds, rfl⟩

end CatalogSettings

/-! ### What an environment asks for -/

/-- The default branch that an environment asks for. -/
inductive Environment.DefaultBranch (env : Environment) : String → Prop where
  | named {text : String} (h : env.text? "CATALOG_DEFAULT_BRANCH" = some text) (hblank : Text.trim text ≠ "") :
    DefaultBranch env (Text.trim text)
  | blank {text : String} (h : env.text? "CATALOG_DEFAULT_BRANCH" = some text) (hblank : Text.trim text = "") :
    DefaultBranch env "main"
  | unset (h : env.text? "CATALOG_DEFAULT_BRANCH" = none) : DefaultBranch env "main"

/-- The names that an environment lists: what stands between the commas, trimmed, but for what is blank. -/
inductive Environment.ListsReferences (env : Environment) : List String → Prop where
  | listed {pieces : List String} (h : env.text? "CATALOG_REFERENCES" = some (",".intercalate pieces)) (hne : pieces ≠ [])
    (hcomma : ∀ piece ∈ pieces, ',' ∉ piece.toList) : ListsReferences env ((pieces.map Text.trim).filter (· ≠ ""))
  | unset (h : env.text? "CATALOG_REFERENCES" = none) : ListsReferences env []

namespace CatalogSettings

theorem defaultBranch_iff : env.DefaultBranch name ↔ name = readDefaultBranch env := by
  constructor
  · intro h
    unfold readDefaultBranch
    cases h with
    | named h hblank => simp [h, hblank, Option.filter_some]
    | blank h hblank => simp [h, hblank, Option.filter_some]
    | unset h => simp [h]
  · rintro rfl
    unfold readDefaultBranch
    cases htext : env.text? "CATALOG_DEFAULT_BRANCH" with
    | none => exact .unset htext
    | some text =>
      by_cases hblank : Text.trim text = ""
      · simpa [hblank, Option.filter_some] using Environment.DefaultBranch.blank htext hblank
      · simpa [hblank, Option.filter_some] using Environment.DefaultBranch.named htext hblank

theorem listsReferences_iff {names : List String} : env.ListsReferences names ↔ names = readReferences env := by
  constructor
  · intro h
    unfold readReferences
    cases h with
    | listed h hne hcomma =>
      rw [h, Option.getD_some]
      exact congrArg (fun pieces => (pieces.map Text.trim).filter (· ≠ "")) (Text.pieces_intercalate hne hcomma).symm
    | unset h =>
      rw [h]
      decide
  · rintro rfl
    unfold readReferences
    cases htext : env.text? "CATALOG_REFERENCES" with
    | none => exact .unset htext
    | some text =>
      refine .listed ?_ ?_ fun piece hpiece => Text.not_mem_of_mem_pieces hpiece
      · rw [htext]
        exact congrArg some (Text.intercalate_pieces ',' text).symm
      · exact Text.pieces_ne_nil ',' text

/-- The settings have the branch for the default one, and the branch and the names for references, each once and in this
order. -/
structure Lists (settings : CatalogSettings) (branch : String) (names : List String) : Prop where
  defaultBranch : settings.defaultBranch = branch
  references : settings.references = (branch :: names).eraseDups
  first : settings.references.head? = some branch
  distinct : settings.references.Nodup
  inOrder : settings.references.Sublist (branch :: names)
  complete : ∀ name, name ∈ settings.references ↔ name = branch ∨ name ∈ names
  valid : ∀ name ∈ settings.references, ReferenceName name
  found : ∀ name, settings.reference? name = if name ∈ settings.references then some name else none

theorem lists_of_ofEnvironment (h : ofEnvironment env = .ok settings) :
    settings.Lists (readDefaultBranch env) (readReferences env) := by
  have hvalid : ∀ name ∈ settings.references, ReferenceName name := fun name => referenceName_of_mem h
  obtain ⟨-, rfl⟩ := ofEnvironment_eq_ok.1 h
  refine ⟨rfl, rfl, ?_, nodup_eraseDups _, eraseDups_sublist _, fun name => ?_, hvalid, reference?_eq _⟩
  · rw [readNames, List.eraseDups_cons, List.head?_cons]
  · rw [List.mem_eraseDups, readNames, List.mem_cons]

end CatalogSettings

/-- Blank names are passed over, and of the others the first that is none of a reference is told. -/
example : CatalogSettings.ofEnvironment ⟨[("CATALOG_REFERENCES", Text.Utf8.encode "dev, ,a..b,dir/")]⟩ =
    .error ⟨"a..b"⟩ := by decide +kernel

end CatalogGateway
