import Mathlib.Data.List.Nodup
import Mathlib.Data.List.Perm.Basic

/-!
# Lists

Readings one after the other, the first of which to fail ends them (`bind_eq_ok_iff`, `bind_eq_error_iff`), and lists
that are read item by item: the first item that cannot be read tells why (`mapM_eq_error_iff`), and the items in another
order give the same values in that order (`exists_perm_mapM`).  Lists that are checked item by item (`forM_eq_ok`,
`forM_eq_error_iff`), lists from which repetitions are taken out (`nodup_eraseDups`), and lists of entries with different
keys: they find the same in any order (`lookup_eq_of_perm`, `perm_of_lookup`).
-/

namespace CatalogGateway

variable {α β ε : Type} {f : α → Except ε β}

/-! ### The first item of its kind -/

section

variable {p : α → Prop} {l : List α} {a b : α}

/-- The first item of a list with a property. -/
def FirstIn (p : α → Prop) (l : List α) (a : α) : Prop :=
  ∃ before after, l = before ++ a :: after ∧ (∀ b ∈ before, ¬ p b) ∧ p a

theorem FirstIn.holds (h : FirstIn p l a) : p a := by
  obtain ⟨_, _, -, -, ha⟩ := h
  exact ha

theorem FirstIn.mem (h : FirstIn p l a) : a ∈ l := by
  obtain ⟨before, after, rfl, -⟩ := h
  exact List.mem_append_right before List.mem_cons_self

theorem firstIn_nil : ¬ FirstIn p [] a := fun h => absurd h.mem List.not_mem_nil

theorem firstIn_cons : FirstIn p (b :: l) a ↔ p b ∧ a = b ∨ ¬ p b ∧ FirstIn p l a := by
  constructor
  · rintro ⟨before, after, heq, hbefore, ha⟩
    cases before with
    | nil =>
      obtain ⟨rfl, rfl⟩ := List.cons.inj heq
      exact .inl ⟨ha, rfl⟩
    | cons first before =>
      obtain ⟨rfl, rfl⟩ := List.cons.inj heq
      rw [List.forall_mem_cons] at hbefore
      exact .inr ⟨hbefore.1, before, after, rfl, hbefore.2, ha⟩
  · rintro (⟨hb, rfl⟩ | ⟨hb, before, after, rfl, hbefore, ha⟩)
    · exact ⟨[], l, rfl, by simp, hb⟩
    · exact ⟨b :: before, after, rfl, List.forall_mem_cons.2 ⟨hb, hbefore⟩, ha⟩

theorem exists_firstIn : (∃ a, FirstIn p l a) ↔ ∃ a ∈ l, p a := by
  induction l with
  | nil => simp [firstIn_nil]
  | cons b rest ih => by_cases hb : p b <;> simp [firstIn_cons, hb, ih]

theorem firstIn_congr {q : α → Prop} (h : ∀ a ∈ l, p a ↔ q a) : FirstIn p l a ↔ FirstIn q l a := by
  induction l with
  | nil => simp [firstIn_nil]
  | cons b rest ih =>
    rw [List.forall_mem_cons] at h
    rw [firstIn_cons, firstIn_cons, h.1, ih h.2]

theorem firstIn_filter {q : α → Bool} (h : ∀ a, p a → q a = true) : FirstIn p (l.filter q) a ↔ FirstIn p l a := by
  induction l with
  | nil => simp [firstIn_nil]
  | cons b rest ih =>
    rw [List.filter_cons]
    split
    · rw [firstIn_cons, firstIn_cons, ih]
    · rename_i hb
      have hnot : ¬ p b := fun hp => hb (h b hp)
      simp [firstIn_cons, hnot, ih]

end

/-! ### Readings -/

theorem exists_eq_ok_of_isSome {x : Except ε α} (h : x.toOption.isSome = true) : ∃ a, x = .ok a := by
  cases x with
  | error e => cases h
  | ok a => exact ⟨a, rfl⟩

theorem bind_eq_ok_iff {x : Except ε α} {b : β} : x >>= f = .ok b ↔ ∃ a, x = .ok a ∧ f a = .ok b := by
  cases x with
  | error e => simp [bind, Except.bind]
  | ok a => simp [bind, Except.bind]

theorem map_eq_ok_iff {x : Except ε α} {g : α → β} {b : β} : x.map g = .ok b ↔ ∃ a, x = .ok a ∧ g a = b := by
  cases x with
  | error e => simp [Except.map]
  | ok a => simp [Except.map]

theorem bind_eq_error_iff {x : Except ε α} {e : ε} :
    x >>= f = .error e ↔ x = .error e ∨ ∃ a, x = .ok a ∧ f a = .error e := by
  cases x with
  | error e' => simp [bind, Except.bind]
  | ok a => simp [bind, Except.bind]

theorem mapM_cons_eq_ok {a : α} {l : List α} {r : List β} :
    (a :: l).mapM f = .ok r ↔ ∃ b rest, f a = .ok b ∧ l.mapM f = .ok rest ∧ r = b :: rest := by
  rw [List.mapM_cons]
  cases f a with
  | error e => simp [bind, Except.bind]
  | ok b => cases l.mapM f <;> simp [bind, Except.bind, pure, Except.pure, eq_comm]

/-- Where the items cannot all be read, the first that cannot be read tells why. -/
theorem mapM_eq_error_iff {e : ε} {l : List α} : l.mapM f = .error e ↔
    ∃ a, FirstIn (fun a => ∃ e, f a = .error e) l a ∧ f a = .error e := by
  induction l with
  | nil => simp [firstIn_nil, pure, Except.pure]
  | cons a rest ih =>
    rw [List.mapM_cons, bind_eq_error_iff]
    cases ha : f a with
    | error e' => simp [firstIn_cons, ha]
    | ok b => simp [firstIn_cons, ha, bind_eq_error_iff, ih, pure, Except.pure]

theorem exists_of_mapM_eq_error {e : ε} {l : List α} (h : l.mapM f = .error e) : ∃ a ∈ l, f a = .error e := by
  obtain ⟨a, hfirst, ha⟩ := mapM_eq_error_iff.1 h
  exact ⟨a, hfirst.mem, ha⟩

theorem mem_mapM {l : List α} {r : List β} (h : l.mapM f = .ok r) {b : β} : b ∈ r ↔ ∃ a ∈ l, f a = .ok b := by
  induction l generalizing r with
  | nil =>
    cases h
    simp
  | cons a rest ih =>
    obtain ⟨b', more, ha, hmore, rfl⟩ := mapM_cons_eq_ok.1 h
    rw [List.mem_cons, ih hmore]
    constructor
    · rintro (rfl | ⟨a', ha', hb⟩)
      · exact ⟨a, List.mem_cons_self, ha⟩
      · exact ⟨a', List.mem_cons_of_mem _ ha', hb⟩
    · rintro ⟨a', ha', hb⟩
      rcases List.mem_cons.1 ha' with rfl | ha'
      · rw [ha] at hb
        exact .inl (Except.ok.inj hb).symm
      · exact .inr ⟨a', ha', hb⟩

theorem exists_mapM_eq_ok {l : List α} : (∃ r, l.mapM f = .ok r) ↔ ∀ a ∈ l, ∃ b, f a = .ok b := by
  constructor
  · rintro ⟨r, hr⟩ a ha
    induction l generalizing r with
    | nil => cases ha
    | cons a' rest ih =>
      obtain ⟨b, more, hb, hmore, rfl⟩ := mapM_cons_eq_ok.1 hr
      rcases List.mem_cons.1 ha with rfl | ha
      · exact ⟨b, hb⟩
      · exact ih more hmore ha
  · intro h
    cases hr : l.mapM f with
    | ok r => exact ⟨r, rfl⟩
    | error e =>
      obtain ⟨a, ha, he⟩ := exists_of_mapM_eq_error hr
      obtain ⟨b, hb⟩ := h a ha
      rw [he] at hb
      cases hb

/-- The elements in another order have the same images in another order. -/
theorem exists_perm_mapM {l l' : List α} (h : l.Perm l') {r : List β} (hr : l.mapM f = .ok r) :
    ∃ r', l'.mapM f = .ok r' ∧ r.Perm r' := by
  -- along the steps of the permutation; a swap takes two elements off and puts them back
  induction h generalizing r with
  | nil => exact ⟨r, hr, .refl r⟩
  | cons a _ ih =>
    obtain ⟨b, rest, ha, hrest, rfl⟩ := mapM_cons_eq_ok.1 hr
    obtain ⟨rest', hrest', hperm⟩ := ih hrest
    exact ⟨b :: rest', mapM_cons_eq_ok.2 ⟨b, rest', ha, hrest', rfl⟩, hperm.cons b⟩
  | swap a a' l =>
    obtain ⟨b', rest, ha', hrest, rfl⟩ := mapM_cons_eq_ok.1 hr
    obtain ⟨b, more, ha, hmore, rfl⟩ := mapM_cons_eq_ok.1 hrest
    have htail : (a' :: l).mapM f = .ok (b' :: more) := mapM_cons_eq_ok.2 ⟨b', more, ha', hmore, rfl⟩
    exact ⟨b :: b' :: more, mapM_cons_eq_ok.2 ⟨b, _, ha, htail, rfl⟩, .swap b b' more⟩
  | trans _ _ ih ih' =>
    obtain ⟨r', hr', hperm⟩ := ih hr
    obtain ⟨r'', hr'', hperm'⟩ := ih' hr'
    exact ⟨r'', hr'', hperm.trans hperm'⟩

theorem mapM_map_eq_ok {γ : Type} {g : γ → α} {l : List γ} {r : γ → β} (h : ∀ c ∈ l, f (g c) = .ok (r c)) :
    (l.map g).mapM f = .ok (l.map r) := by
  induction l with
  | nil => rfl
  | cons c rest ih =>
    have hrest := ih fun c' hc' => h c' (List.mem_cons_of_mem c hc')
    exact mapM_cons_eq_ok.2 ⟨r c, rest.map r, h c List.mem_cons_self, hrest, rfl⟩

theorem forM_eq_ok {check : α → Except ε PUnit} {l : List α} : l.forM check = .ok ⟨⟩ ↔ ∀ a ∈ l, check a = .ok ⟨⟩ := by
  induction l with
  | nil => simp [pure, Except.pure]
  | cons a rest ih =>
    have hcons : (a :: rest).forM check = check a >>= fun _ => rest.forM check := rfl
    rw [hcons, List.forall_mem_cons, ← ih]
    cases check a with
    | error e => simp [bind, Except.bind]
    | ok u => simp [bind, Except.bind]

theorem forM_eq_map_mapM (check : α → Except ε Unit) (l : List α) :
    l.forM check = (l.mapM check).map fun _ => () := by
  induction l with
  | nil => rfl
  | cons a rest ih =>
    have hcons : (a :: rest).forM check = check a >>= fun _ => rest.forM check := rfl
    rw [hcons, ih, List.mapM_cons]
    cases check a with
    | error e => rfl
    | ok u => cases rest.mapM check <;> rfl

theorem forM_eq_error_iff {check : α → Except ε Unit} {l : List α} {e : ε} : l.forM check = .error e ↔
    ∃ a, FirstIn (fun a => ∃ e, check a = .error e) l a ∧ check a = .error e := by
  rw [← mapM_eq_error_iff, forM_eq_map_mapM]
  cases l.mapM check <;> simp [Except.map]

/-! ### Repetitions -/

section

variable {γ : Type} [DecidableEq γ]

/-- Induction along what is left of a list when the repetitions of its first item are taken out of it. -/
theorem eraseDups_induction {motive : List γ → Prop} (l : List γ) (nil : motive [])
    (cons : ∀ a rest, motive (rest.filter fun b => !b == a) → motive (a :: rest)) : motive l := by
  induction hn : l.length using Nat.strongRecOn generalizing l with
  | _ n ih =>
    cases l with
    | nil => exact nil
    | cons a rest =>
      have hle := List.length_filter_le (fun b => !b == a) rest
      rw [List.length_cons] at hn
      exact cons a rest (ih _ (by omega) _ rfl)

theorem nodup_eraseDups (l : List γ) : l.eraseDups.Nodup := by
  induction l using eraseDups_induction with
  | nil => exact List.nodup_nil
  | cons a rest ih =>
    rw [List.eraseDups_cons, List.nodup_cons]
    refine ⟨?_, ih⟩
    rw [List.mem_eraseDups, List.mem_filter]
    simp

theorem eraseDups_sublist (l : List γ) : l.eraseDups.Sublist l := by
  induction l using eraseDups_induction with
  | nil => exact List.Sublist.refl []
  | cons a rest ih =>
    rw [List.eraseDups_cons]
    exact (ih.trans List.filter_sublist).cons_cons a

theorem firstIn_eraseDups {p : γ → Prop} {l : List γ} {a : γ} : FirstIn p l.eraseDups a ↔ FirstIn p l a := by
  induction l using eraseDups_induction with
  | nil => rfl
  | cons b rest ih =>
    rw [List.eraseDups_cons, firstIn_cons, firstIn_cons, ih]
    refine or_congr_right (and_congr_right fun hb => firstIn_filter fun c hc => ?_)
    rw [Bool.not_eq_true', beq_eq_false_iff_ne]
    rintro rfl
    exact hb hc

theorem eraseDups_of_nodup {l : List γ} (h : l.Nodup) : l.eraseDups = l := by
  induction l with
  | nil => rfl
  | cons a rest ih =>
    rw [List.nodup_cons] at h
    have hrest : rest.filter (fun b => !b == a) = rest := by
      refine List.filter_eq_self.2 fun b hb => ?_
      rw [Bool.not_eq_true', beq_eq_false_iff_ne]
      rintro rfl
      exact h.1 hb
    rw [List.eraseDups_cons, hrest, ih h.2]

/-- Of what follows, only the items that have not been there before count. -/
theorem eraseDups_append_congr {l l' m m' : List γ} (h : l.eraseDups = l'.eraseDups)
    (hm : m.filter (· ∉ l) = m'.filter (· ∉ l)) : (l ++ m).eraseDups = (l' ++ m').eraseDups := by
  have hmem : ∀ a, a ∈ l ↔ a ∈ l' := fun a => by rw [← List.mem_eraseDups, h, List.mem_eraseDups]
  have hnew : ∀ k n : List γ, n.removeAll k = n.filter (· ∉ k) := by
    intro k n
    refine List.filter_congr fun a _ => ?_
    simp
  have hold : m'.filter (· ∉ l) = m'.filter (· ∉ l') := by
    refine List.filter_congr fun a _ => ?_
    simp only [hmem]
  rw [List.eraseDups_append, List.eraseDups_append, hnew, hnew, h, hm, hold]

theorem eraseDups_of_forall_eq {l : List γ} {a : γ} (hne : l ≠ []) (h : ∀ b ∈ l, b = a) :
    l.eraseDups = [a] := by
  obtain ⟨b, rest, rfl⟩ := List.exists_cons_of_ne_nil hne
  rw [List.forall_mem_cons] at h
  obtain ⟨rfl, hrest⟩ := h
  have hnone : rest.filter (fun c => !c == b) = [] := by
    refine List.filter_eq_nil_iff.2 fun c hc => ?_
    rw [hrest c hc, beq_self_eq_true]
    exact Bool.false_ne_true
  rw [List.eraseDups_cons, hnone, List.eraseDups_nil]

end

/-! ### Entries with different keys -/

section

variable {κ : Type} [DecidableEq κ] {l l' : List (κ × α)}

/-- Where keys differ, each entry is the one that is found under its key. -/
theorem lookup_of_mem (hkeys : (l.map (·.1)).Nodup) {key : κ} {a : α} (h : (key, a) ∈ l) : l.lookup key = some a := by
  obtain ⟨before, after, rfl⟩ := List.append_of_mem h
  refine List.lookup_eq_some_iff.2 ⟨before, after, rfl, ?_⟩
  intro entry hentry
  rw [List.map_append, List.map_cons, List.nodup_append] at hkeys
  have hne := hkeys.2.2 entry.1 (List.mem_map_of_mem hentry) key List.mem_cons_self
  exact bne_iff_ne.2 (Ne.symm hne)

theorem lookup_cons_eq_ite (entry : κ × α) (l : List (κ × α)) (key : κ) :
    (entry :: l).lookup key = if key = entry.1 then some entry.2 else l.lookup key := by
  by_cases h : key = entry.1
  · rw [h, List.lookup_cons_self, if_pos rfl]
  · rw [List.lookup_cons, beq_false_of_ne h, if_neg h]

theorem mem_of_lookup {key : κ} {a : α} (h : l.lookup key = some a) : (key, a) ∈ l := by
  obtain ⟨before, after, rfl, -⟩ := List.lookup_eq_some_iff.1 h
  exact List.mem_append_right _ List.mem_cons_self

theorem mem_map_fst_iff {key : κ} : key ∈ l.map (·.1) ↔ l.lookup key ≠ none := by
  constructor
  · intro hmem hnone
    obtain ⟨entry, hentry, rfl⟩ := List.mem_map.1 hmem
    exact absurd (List.lookup_eq_none_iff.1 hnone entry hentry) (by simp)
  · intro hsome
    obtain ⟨a, ha⟩ := Option.ne_none_iff_exists'.1 hsome
    exact List.mem_map.2 ⟨_, mem_of_lookup ha, rfl⟩

theorem lookup_eq_some_iff_of_nodup (hkeys : (l.map (·.1)).Nodup) {key : κ} {a : α} :
    l.lookup key = some a ↔ (key, a) ∈ l :=
  ⟨mem_of_lookup, lookup_of_mem hkeys⟩

/-- Where keys differ, the order of the entries does not matter to what is found. -/
theorem lookup_eq_of_perm (h : l.Perm l') (hkeys : (l.map (·.1)).Nodup) (key : κ) : l.lookup key = l'.lookup key := by
  have hkeys' : (l'.map (·.1)).Nodup := (h.map (·.1)).nodup_iff.1 hkeys
  refine Option.ext fun a => ?_
  rw [lookup_eq_some_iff_of_nodup hkeys, lookup_eq_some_iff_of_nodup hkeys', h.mem_iff]

/-- Where keys differ, what is found under the keys makes up the entries, in some order. -/
theorem perm_of_lookup (hkeys : (l.map (·.1)).Nodup) (hkeys' : (l'.map (·.1)).Nodup)
    (h : ∀ key, l.lookup key = l'.lookup key) : l.Perm l' := by
  rw [List.perm_ext_iff_of_nodup (List.Nodup.of_map _ hkeys) (List.Nodup.of_map _ hkeys')]
  rintro ⟨key, a⟩
  rw [← lookup_eq_some_iff_of_nodup hkeys, ← lookup_eq_some_iff_of_nodup hkeys', h]

end

end CatalogGateway
