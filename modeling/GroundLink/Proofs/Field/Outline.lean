import GroundLink.Proofs.Text

/-!
# Texts in brackets

The outline of a text is what stands in front of its first square bracket, and each bracket with
what stands behind it, all without the blanks at either end. It says nothing about the order of
brackets or whether they match.

Blanks next to brackets, and at the start and the end, do not change an outline (`of_blanks`,
`alike_behind`, `alike_before` and `Alike.append`). `exists_of_behind_eq_cons` takes a text apart at
its first bracket.
-/

namespace GroundLink

/-- Whether a character is a square bracket. -/
def isBracket (c : Char) : Bool :=
  c = '[' || c = ']'

/-- There are two brackets. -/
theorem isBracket_iff {c : Char} : isBracket c = true ↔ c = '[' ∨ c = ']' := by
  rw [isBracket, Bool.or_eq_true, decide_eq_true_iff, decide_eq_true_iff]

/-- They are told by their codes. -/
theorem isBracket_iff_code {c : Char} : isBracket c = true ↔ c.toNat = 91 ∨ c.toNat = 93 := by
  rw [isBracket_iff, ← Char.toNat_inj, ← Char.toNat_inj]
  exact Iff.rfl

/-- A text that is cut at its brackets: what stands in front of the first one, and each bracket with
what stands behind it. -/
structure Outline where
  front : List Char
  behind : List (Char × List Char)

namespace Outline

/-- Cut a text at its brackets. -/
def cut : List Char → Outline
  | [] => ⟨[], []⟩
  | c :: rest =>
    if isBracket c then ⟨[], (c, (cut rest).front) :: (cut rest).behind⟩
    else ⟨c :: (cut rest).front, (cut rest).behind⟩

/-- Cut the blanks from the ends of each piece. -/
def trim (outline : Outline) : Outline :=
  ⟨Text.trim outline.front, outline.behind.map fun (bracket, piece) => (bracket, Text.trim piece)⟩

/-- The pieces of a text without blanks around them. -/
def of (text : List Char) : Outline :=
  (cut text).trim

variable {text other front rest blanks : List Char} {c bracket : Char}

/-- A blank is no bracket. -/
theorem not_isBracket_of_isBlank (h : Text.isBlank c = true) : ¬isBracket c = true := by
  rw [isBracket_iff]
  rintro (rfl | rfl) <;> exact absurd h (by decide)

/-- Brackets are not cut from the ends of a text. -/
theorem not_isBracket_of_trim (h : ∀ c ∈ Text.trim text, ¬isBracket c = true) :
    ∀ c ∈ text, ¬isBracket c = true := by
  obtain ⟨before, hbefore, hstart⟩ := Text.exists_trimStart text
  obtain ⟨behind, hbehind, hend⟩ := Text.exists_trimEnd (Text.trimStart text)
  rw [← hstart, ← hend, List.forall_mem_append, List.forall_mem_append]
  exact ⟨fun c hc => not_isBracket_of_isBlank (hbefore c hc), h,
    fun c hc => not_isBracket_of_isBlank (hbehind c hc)⟩

/-- A bracket begins a new piece. -/
theorem cut_bracket (h : isBracket bracket = true) (rest : List Char) :
    cut (bracket :: rest) = ⟨[], (bracket, (cut rest).front) :: (cut rest).behind⟩ :=
  if_pos h

/-- A piece without brackets goes to the first piece of what follows. -/
theorem cut_append (h : ∀ c ∈ front, ¬isBracket c = true) (rest : List Char) :
    cut (front ++ rest) = ⟨front ++ (cut rest).front, (cut rest).behind⟩ := by
  induction front with
  | nil => rfl
  | cons c front ih =>
      obtain ⟨hc, hfront⟩ := List.forall_mem_cons.mp h
      rw [List.cons_append, cut, if_neg hc, ih hfront]
      rfl

/-- Nothing stands in front of a bracket that comes first. -/
theorem front_cut_eq_nil (h : ∀ c ∈ rest.head?, isBracket c = true) : (cut rest).front = [] := by
  cases rest with
  | nil => rfl
  | cons c rest => rw [cut_bracket (h c rfl)]

/-- Blanks belong to the piece that they stand in. -/
theorem cut_blanks (h : Text.Blanks blanks) (rest : List Char) :
    cut (blanks ++ rest) = ⟨blanks ++ (cut rest).front, (cut rest).behind⟩ :=
  cut_append (fun c hc => not_isBracket_of_isBlank (h c hc)) rest

/-- A dimension in brackets, and what follows. -/
theorem of_brackets (h : ∀ c ∈ front, ¬isBracket c = true) (rest : List Char) :
    of ('[' :: (front ++ ']' :: rest)) =
      ⟨[], ('[', Text.trim front) :: (']', (of rest).front) :: (of rest).behind⟩ := by
  rw [of, cut_bracket rfl, cut_append h, cut_bracket rfl]
  simp only [List.append_nil]
  rfl

/-- A text is its first piece, which has no brackets, and nothing or a bracket behind it. -/
theorem exists_rest (text : List Char) : ∃ rest, text = (cut text).front ++ rest ∧
    (∀ c ∈ (cut text).front, ¬isBracket c = true) ∧ cut rest = ⟨[], (cut text).behind⟩ ∧
    ∀ c ∈ rest.head?, isBracket c = true := by
  induction text with
  | nil => exact ⟨[], rfl, List.forall_mem_nil _, rfl, nofun⟩
  | cons c text ih =>
      by_cases hc : isBracket c = true
      case pos =>
        rw [cut_bracket hc]
        refine ⟨c :: text, rfl, List.forall_mem_nil _, cut_bracket hc text, fun first hfirst => ?_⟩
        obtain rfl := Option.some.inj hfirst
        exact hc
      case neg =>
        obtain ⟨rest, htext, hfree, hrest, hhead⟩ := ih
        rw [cut, if_neg hc]
        refine ⟨rest, ?_, List.forall_mem_cons.mpr ⟨hc, hfree⟩, hrest, hhead⟩
        exact congrArg (c :: ·) htext

/-- Where there is no bracket, the first piece is all there is. -/
theorem trim_of_behind_eq_nil (h : (of text).behind = []) : Text.trim text = (of text).front := by
  obtain ⟨rest, htext, -, hrest, hhead⟩ := exists_rest text
  have hnil : (cut text).behind = [] := List.map_eq_nil_iff.mp h
  cases rest with
  | nil =>
      rw [List.append_nil] at htext
      exact congrArg Text.trim htext
  | cons c rest =>
      rw [cut_bracket (hhead c rfl), hnil] at hrest
      cases hrest

/-- Where there is a bracket, what stands behind it is a text with an outline of its own. -/
theorem exists_of_behind_eq_cons {piece : List Char} {pieces : List (Char × List Char)}
    (h : (of text).behind = (bracket, piece) :: pieces) :
    ∃ front after, text = front ++ bracket :: after ∧ (∀ c ∈ front, ¬isBracket c = true) ∧
      Text.trim front = (of text).front ∧ isBracket bracket = true ∧
      (of after).front = piece ∧ (of after).behind = pieces := by
  obtain ⟨rest, htext, hfree, hrest, hhead⟩ := exists_rest text
  cases rest with
  | nil =>
      have hnil : (of text).behind = [] := by rw [of, trim, ← congrArg Outline.behind hrest]; rfl
      rw [h] at hnil
      cases hnil
  | cons c after =>
      rw [cut_bracket (hhead c rfl), mk.injEq] at hrest
      have hpieces := h
      rw [of, trim, ← hrest.2, List.map_cons, List.cons.injEq, Prod.mk.injEq] at hpieces
      obtain ⟨⟨rfl, hpiece⟩, hothers⟩ := hpieces
      exact ⟨(cut text).front, after, htext, hfree, rfl, hhead c rfl, hpiece, hothers⟩

/-- Each bracket of a text has a piece. -/
theorem count_eq (text : List Char) :
    text.count '[' = ((of text).behind.map Prod.fst).count '[' := by
  rw [of, trim, List.map_map]
  show text.count '[' = ((cut text).behind.map Prod.fst).count '['
  induction text with
  | nil => rfl
  | cons c text ih =>
      by_cases hc : isBracket c = true
      case pos =>
        rw [cut_bracket hc, List.map_cons, List.count_cons, List.count_cons, ih]
      case neg =>
        have hne : c ≠ '[' := fun hopen => hc (isBracket_iff.mpr (.inl hopen))
        rw [cut, if_neg hc, List.count_cons_of_ne hne, ih]

/-! ## Blanks around pieces -/

/-- Texts are alike behind any common front: their first pieces end alike, and the other ones are
the same up to blanks. -/
def Alike (text other : List Char) : Prop :=
  Text.trimEnd (cut text).front = Text.trimEnd (cut other).front ∧
    (of text).behind = (of other).behind

/-- Texts that are alike stay so behind the same characters. -/
theorem Alike.append (h : Alike text other) (front : List Char) :
    Alike (front ++ text) (front ++ other) := by
  induction front with
  | nil => exact h
  | cons c front ih =>
      obtain ⟨hfront, hbehind⟩ := ih
      rw [List.cons_append, List.cons_append]
      by_cases hc : isBracket c = true
      case pos =>
        refine ⟨by rw [cut_bracket hc, cut_bracket hc], ?_⟩
        simp only [of, trim, cut_bracket hc, List.map_cons, List.cons.injEq, Prod.mk.injEq,
          true_and]
        exact ⟨Text.trim_congr hfront, hbehind⟩
      case neg =>
        have hcut (rest : List Char) :
            cut (c :: rest) = ⟨c :: (cut rest).front, (cut rest).behind⟩ :=
          if_neg hc
        refine ⟨?_, ?_⟩
        · rw [hcut, hcut]
          exact Text.trimEnd_append_congr hfront [c]
        · simp only [of, trim, hcut]
          exact hbehind

/-- Texts that are alike have one outline. -/
theorem Alike.of_eq (h : Alike text other) : of text = of other := by
  show Outline.mk (Text.trim (cut text).front) (of text).behind =
    Outline.mk (Text.trim (cut other).front) (of other).behind
  rw [Text.trim_congr h.1, h.2]

/-- Blanks at the start do not matter. -/
theorem of_blanks (hblanks : Text.Blanks blanks) (rest : List Char) :
    of (blanks ++ rest) = of rest := by
  simp only [of, trim, cut_blanks hblanks, Text.trim_append hblanks]

/-- Blanks behind a bracket do not matter. -/
theorem alike_behind (h : isBracket bracket = true) (hblanks : Text.Blanks blanks)
    (rest : List Char) :
    Alike (bracket :: (blanks ++ rest)) (bracket :: rest) := by
  refine ⟨by rw [cut_bracket h, cut_bracket h], ?_⟩
  simp only [of, trim, cut_bracket h, cut_blanks hblanks, List.map_cons, Text.trim_append hblanks]

/-- Blanks in front of a bracket, or at the end, do not matter. -/
theorem alike_before (hplace : ∀ c ∈ rest.head?, isBracket c = true)
    (hblanks : Text.Blanks blanks) :
    Alike (blanks ++ rest) rest := by
  refine ⟨?_, ?_⟩
  · rw [cut_blanks hblanks, front_cut_eq_nil hplace, List.append_nil]
    exact Text.trimEnd_append hblanks []
  · simp only [of, trim, cut_blanks hblanks]

/-- Blanks at the start do not change an outline. -/
theorem of_trimStart (text : List Char) : of (Text.trimStart text) = of text := by
  obtain ⟨blanks, hblanks, hsplit⟩ := Text.exists_trimStart text
  conv_rhs => rw [← hsplit, of_blanks hblanks]

/-- Nor do blanks at the end. -/
theorem of_trimEnd (text : List Char) : of (Text.trimEnd text) = of text := by
  obtain ⟨blanks, hblanks, hsplit⟩ := Text.exists_trimEnd text
  have hend : Alike (blanks ++ []) [] := alike_before nofun hblanks
  have hsame := (hend.append (Text.trimEnd text)).of_eq
  rw [List.append_nil, List.append_nil, hsplit] at hsame
  exact hsame.symm

/-- Nor do blanks at either end. -/
theorem of_trim (text : List Char) : of (Text.trim text) = of text := by
  rw [Text.trim, of_trimEnd, of_trimStart]

end Outline

end GroundLink
