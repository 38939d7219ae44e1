import Mathlib.Data.List.Forall2
import Mathlib.Data.List.Induction

/-!
# Steps that may fail

What is known of the steps of a computation that has succeeded as a whole, and where the steps for
the items of a list stop.
-/

namespace GroundLink

variable {α β ε : Type}

/-- A computation of two steps succeeds if both succeed. -/
theorem bind_eq_ok {x : Except ε α} {f : α → Except ε β} {b : β} :
    x >>= f = .ok b ↔ ∃ a, x = .ok a ∧ f a = .ok b := by
  cases x with
  | error e => exact ⟨nofun, fun ⟨_, h, _⟩ => nomatch h⟩
  | ok a => exact ⟨fun h => ⟨a, rfl, h⟩, fun ⟨_, h, hf⟩ => Except.ok.inj h ▸ hf⟩

/-- A computation of two steps fails if the first one fails, or else the second. -/
theorem bind_eq_error {x : Except ε α} {f : α → Except ε β} {e : ε} :
    x >>= f = .error e ↔ x = .error e ∨ ∃ a, x = .ok a ∧ f a = .error e := by
  cases x with
  | error other =>
      refine ⟨fun h => .inl (congrArg Except.error (Except.error.inj h)), ?_⟩
      rintro (h | ⟨_, h, -⟩)
      · exact congrArg Except.error (Except.error.inj h)
      · cases h
  | ok a =>
      refine ⟨fun h => .inr ⟨a, rfl, h⟩, ?_⟩
      rintro (h | ⟨_, h, hf⟩)
      · cases h
      · exact Except.ok.inj h ▸ hf

/-- A result that was turned into another comes from a success. -/
theorem map_eq_ok {x : Except ε α} {f : α → β} {b : β} :
    x.map f = .ok b ↔ ∃ a, x = .ok a ∧ f a = b := by
  cases x with
  | error e => exact ⟨nofun, fun ⟨_, h, _⟩ => nomatch h⟩
  | ok a => exact ⟨fun h => ⟨a, rfl, Except.ok.inj h⟩, fun ⟨_, h, hf⟩ => Except.ok.inj h ▸ hf ▸ rfl⟩

/-- There is one exactly if there is the other. -/
theorem exists_map_eq_ok {x : Except ε α} {f : α → β} :
    (∃ b, x.map f = .ok b) ↔ ∃ a, x = .ok a := by
  simp only [map_eq_ok]
  exact ⟨fun ⟨_, a, h, _⟩ => ⟨a, h⟩, fun ⟨a, h⟩ => ⟨f a, a, h, rfl⟩⟩

/-- A failure stays what it is. -/
theorem map_eq_error {x : Except ε α} {f : α → β} {e : ε} : x.map f = .error e ↔ x = .error e := by
  cases x with
  | error other =>
      show Except.error other = .error e ↔ Except.error other = .error e
      rw [Except.error.injEq, Except.error.injEq]
  | ok a => exact ⟨nofun, nofun⟩

/-- To say an error otherwise makes no difference to a success. -/
theorem mapError_eq_ok {δ : Type} {x : Except ε α} {f : ε → δ} {a : α} :
    x.mapError f = .ok a ↔ x = .ok a := by
  cases x with
  | error e => exact ⟨nofun, nofun⟩
  | ok b =>
      show Except.ok b = .ok a ↔ Except.ok b = .ok a
      rw [Except.ok.injEq, Except.ok.injEq]

/-- A computation fails as it is said to if it succeeds in all other cases. -/
theorem eq_error_iff_of_cases {x : Except ε α} {Fails : ε → Prop}
    (hcases : (∃ a, x = .ok a) ∨ ∃ e, Fails e) (hfails : ∀ e, Fails e → x = .error e) (e : ε) :
    x = .error e ↔ Fails e := by
  refine ⟨fun h => ?_, hfails e⟩
  rcases hcases with ⟨a, hok⟩ | ⟨other, hother⟩
  · exact absurd (hok.symm.trans h) nofun
  · obtain rfl := Except.error.inj ((hfails other hother).symm.trans h)
    exact hother

/-- Items are good from first to last, or a first one of them is bad. -/
theorem good_or_first_bad {Good : List α → Prop} {Bad : List α → α → ε → Prop} (hnil : Good [])
    (hstep : ∀ before item, Good before → Good (before ++ [item]) ∨ ∃ e, Bad before item e)
    (items : List α) : Good items ∨ ∃ e before item after,
      items = before ++ item :: after ∧ Good before ∧ Bad before item e := by
  induction items using List.reverseRecOn with
  | nil => exact .inl hnil
  | append_singleton before item ih =>
      rcases ih with hbefore | ⟨e, earlier, first, after, rfl, hearlier, hfirst⟩
      · refine (hstep before item hbefore).imp_right ?_
        rintro ⟨e, hitem⟩
        exact ⟨e, before, item, [], rfl, hbefore, hitem⟩
      · refine .inr ⟨e, earlier, first, after ++ [item], ?_, hearlier, hfirst⟩
        rw [List.append_assoc, List.cons_append]

/-- Items that go together one by one have each other. -/
theorem exists_of_forall₂ {R : α → β → Prop} {items : List α} {others : List β}
    (h : List.Forall₂ R items others) : ∀ item ∈ items, ∃ other ∈ others, R item other := by
  induction h with
  | nil => exact List.forall_mem_nil _
  | cons hhead _ ih =>
      refine List.forall_mem_cons.mpr ⟨⟨_, List.mem_cons_self, hhead⟩, fun item hitem => ?_⟩
      obtain ⟨other, hother, h⟩ := ih item hitem
      exact ⟨other, List.mem_cons_of_mem _ hother, h⟩

/-- A step that is taken for every item has succeeded for every item. -/
theorem forall₂_of_mapM {f : α → Except ε β} {items : List α} {results : List β}
    (h : items.mapM f = .ok results) :
    List.Forall₂ (fun item result => f item = .ok result) items results := by
  induction items generalizing results with
  | nil =>
      obtain rfl := Except.ok.inj h
      exact .nil
  | cons item rest ih =>
      rw [List.mapM_cons] at h
      obtain ⟨result, hresult, h⟩ := bind_eq_ok.mp h
      obtain ⟨others, hothers, h⟩ := bind_eq_ok.mp h
      obtain rfl := Except.ok.inj h
      exact .cons hresult (ih hothers)

/-- A step that is taken for the items in order fails as it does for the first item it fails for. -/
theorem first_of_mapM {f : α → Except ε β} {items : List α} {e : ε}
    (h : items.mapM f = .error e) : ∃ before item after, items = before ++ item :: after ∧
      (∀ earlier ∈ before, ∃ result, f earlier = .ok result) ∧ f item = .error e := by
  induction items with
  | nil => cases h
  | cons item rest ih =>
      rw [List.mapM_cons] at h
      rcases bind_eq_error.mp h with hitem | ⟨result, hresult, h⟩
      · exact ⟨[], item, rest, rfl, List.forall_mem_nil _, hitem⟩
      · rcases bind_eq_error.mp h with hrest | ⟨others, _, h⟩
        · obtain ⟨before, first, after, rfl, hbefore, hfirst⟩ := ih hrest
          exact ⟨item :: before, first, after, rfl,
            List.forall_mem_cons.mpr ⟨⟨result, hresult⟩, hbefore⟩, hfirst⟩
        · cases h

/-- A step can be taken for all items exactly if it succeeds for each. -/
theorem exists_mapM_eq_ok {f : α → Except ε β} {items : List α} :
    (∃ results, items.mapM f = .ok results) ↔ ∀ item ∈ items, ∃ result, f item = .ok result := by
  constructor
  · rintro ⟨results, h⟩ item hitem
    obtain ⟨result, -, hresult⟩ := exists_of_forall₂ (forall₂_of_mapM h) item hitem
    exact ⟨result, hresult⟩
  · intro h
    cases hresults : items.mapM f with
    | ok results => exact ⟨results, rfl⟩
    | error e =>
        obtain ⟨before, item, after, rfl, -, hitem⟩ := first_of_mapM hresults
        obtain ⟨result, hresult⟩ := h item (List.mem_append_right before List.mem_cons_self)
        exact nomatch hitem.symm.trans hresult

/-- A step that succeeds for every item can be taken for all of them. -/
theorem mapM_eq_ok {f : α → Except ε β} {g : α → β} {items : List α}
    (h : ∀ item ∈ items, f item = .ok (g item)) : items.mapM f = .ok (items.map g) := by
  induction items with
  | nil => rfl
  | cons item rest ih =>
      obtain ⟨hitem, hrest⟩ := List.forall_mem_cons.mp h
      rw [List.mapM_cons, hitem, ih hrest]
      rfl

/-- A change of results can be made one by one. -/
theorem mapM_of_map {γ : Type} {f : α → Except ε β} {f' : α → Except ε γ} {g : β → γ}
    {items : List α} (h : ∀ item ∈ items, f' item = (f item).map g) :
    items.mapM f' = (items.mapM f).map (List.map g) := by
  induction items with
  | nil => rfl
  | cons item rest ih =>
      obtain ⟨hitem, hrest⟩ := List.forall_mem_cons.mp h
      rw [List.mapM_cons, List.mapM_cons, hitem, ih hrest]
      cases f item with
      | error e => rfl
      | ok result => cases rest.mapM f <;> rfl

end GroundLink
