import Mathlib.Data.List.Chain
import Graft.Proofs.Template.StaticText

/-!
# Format templates and their normal form

The pieces of a format template are determined by the template, and every template of the same
pieces reads alike. Here the pieces that occur are told without the scanner, together with the one
template that writes them down.

* `Template.Normal`: the pieces that a template can have: no empty text beside others, no two texts
  next to each other, and holes that end where they were closed.
* `Template.written`: the template of some pieces, every brace of a text doubled.
* `scan_proper`, `joinTexts_apart`: what the scanner and the joining of texts come to, so that
  every template is read as normal pieces.
* `joinTexts_scan_written`: the scanner undoes the writing, piece by piece.
* **`format_templates_normal`**: reading a template and writing normal pieces are inverse.
-/

namespace Graft

/-! ## 1. Normal pieces -/

/-- Whether a piece is a text. -/
def Piece.isText : Piece → Bool
  | .text _ => true
  | .hole _ => false

/-- What can stand between the braces of a hole. The first closing brace ends it, and an opening
brace in front would be the second of two, which are no hole. -/
structure HoleName (name : List Char) : Prop where
  noClosing : '\x7d' ∉ name
  noOpening : name.head? ≠ some '\x7b'

/-- Two pieces that may stand next to each other: texts would be one piece. -/
def Piece.Apart (p q : Piece) : Prop := ¬ (p.isText = true ∧ q.isText = true)

/-- The pieces of a template in normal form. -/
structure Template.Normal (ps : Template) : Prop where
  nonempty : ps ≠ []
  apart : ps.IsChain Piece.Apart
  /-- Only the empty template has an empty text. -/
  filled : .text [] ∈ ps → ps = [.text []]
  holes : ∀ name, .hole name ∈ ps → HoleName name

/-- A character of a text as templates have it: braces are doubled. -/
def doubled (c : Char) : List Char := if c = '\x7b' ∨ c = '\x7d' then [c, c] else [c]

/-- A piece as templates have it. -/
def Piece.written : Piece → List Char
  | .text chars => chars.flatMap doubled
  | .hole name => '\x7b' :: (name ++ ['\x7d'])

/-- The template that has these pieces. -/
def Template.written (ps : Template) : List Char := ps.flatMap Piece.written

/-! ## 2. What is read is normal -/

/-- A piece that needs no other to be in normal form. -/
def Piece.Proper : Piece → Prop
  | .text chars => chars ≠ []
  | .hole name => HoleName name

namespace Template

/-- What is taken up to a closing brace, where no second opening brace stands, is a hole. -/
theorem holeName_takeWhile {rest : List Char} (single : ∀ more, rest = '\x7b' :: more → False) :
    HoleName (rest.takeWhile (· != '\x7d')) := by
  constructor
  · intro mem
    have all := List.all_eq_true.mp (List.all_takeWhile (p := (· != '\x7d')) (l := rest))
    exact absurd (all _ mem) (by decide)
  · rw [List.head?_takeWhile]
    intro first
    obtain ⟨found, -⟩ := Option.filter_eq_some_iff.mp first
    obtain ⟨more, hrest⟩ := List.head?_eq_some_iff.mp found
    exact single more hrest

/-- **The scanner leaves proper pieces only**: one character each, or a hole. -/
theorem scan_proper (cs : List Char) : ∀ p ∈ scan cs, p.Proper := by
  fun_induction scan cs with
  | case1 => exact List.forall_mem_nil _
  | case2 rest ih => exact List.forall_mem_cons.mpr ⟨List.cons_ne_nil _ _, ih⟩
  | case3 rest ih => exact List.forall_mem_cons.mpr ⟨List.cons_ne_nil _ _, ih⟩
  | case4 rest single ih => exact List.forall_mem_cons.mpr ⟨holeName_takeWhile single, ih⟩
  | case5 c rest _ _ _ ih => exact List.forall_mem_cons.mpr ⟨List.cons_ne_nil _ _, ih⟩

variable {chars : List Char} {ps : Template}

theorem consText_proper (filled : chars ≠ []) (h : ∀ p ∈ ps, p.Proper) :
    ∀ p ∈ consText chars ps, p.Proper := by
  unfold consText
  split
  next more rest =>
    obtain ⟨-, hrest⟩ := List.forall_mem_cons.mp h
    exact List.forall_mem_cons.mpr ⟨List.append_ne_nil_of_left_ne_nil filled more, hrest⟩
  next => exact List.forall_mem_cons.mpr ⟨filled, h⟩

theorem joinTexts_proper (h : ∀ p ∈ ps, p.Proper) : ∀ p ∈ joinTexts ps, p.Proper := by
  induction ps with
  | nil => exact List.forall_mem_nil _
  | cons p ps ih =>
    obtain ⟨hp, hps⟩ := List.forall_mem_cons.mp h
    cases p with
    | text chars => exact consText_proper hp (ih hps)
    | hole name => exact List.forall_mem_cons.mpr ⟨hp, ih hps⟩

theorem consText_apart (h : ps.IsChain Piece.Apart) : (consText chars ps).IsChain Piece.Apart := by
  unfold consText
  split
  next more rest =>
    -- The text grows at its front, so its neighbour stays as it was.
    obtain ⟨next, hrest⟩ := List.isChain_cons.mp h
    exact List.isChain_cons.mpr ⟨next, hrest⟩
  next noText =>
    refine List.isChain_cons.mpr ⟨?_, h⟩
    intro q hq both
    obtain ⟨rest, rfl⟩ := List.head?_eq_some_iff.mp hq
    cases q with
    | text more => exact noText more rest rfl
    | hole name => exact absurd both.2 Bool.false_ne_true

/-- **Joined texts have no text next to them.** -/
theorem joinTexts_apart (ps : Template) : (joinTexts ps).IsChain Piece.Apart := by
  induction ps with
  | nil => exact .nil
  | cons p ps ih =>
    cases p with
    | text chars => exact consText_apart ih
    | hole name =>
      refine List.isChain_cons.mpr ⟨?_, ih⟩
      intro q _ both
      exact absurd both.1 Bool.false_ne_true

/-- **Every template is read as normal pieces.** -/
theorem normal_ofFormat (cs : List Char) : (ofFormat cs).Normal := by
  have proper := joinTexts_proper (scan_proper cs)
  have apart := joinTexts_apart (scan cs)
  unfold ofFormat
  cases joined : joinTexts (scan cs) with
  | nil =>
    refine ⟨List.cons_ne_nil _ _, .singleton _, fun _ => rfl, ?_⟩
    intro name mem
    nomatch List.mem_singleton.mp mem
  | cons p rest =>
    rw [joined] at proper apart
    exact ⟨List.cons_ne_nil _ _, apart, fun mem => absurd rfl (proper _ mem),
      fun name mem => proper _ mem⟩

/-! ## 3. What is written is read again -/

theorem scan_doubled (c : Char) (rest : List Char) :
    scan (doubled c ++ rest) = .text [c] :: scan rest := by
  by_cases opening : c = '\x7b'
  · subst opening
    exact scan.eq_2 rest
  · by_cases closing : c = '\x7d'
    · subst closing
      exact scan.eq_3 rest
    · rw [doubled, if_neg (not_or.mpr ⟨opening, closing⟩)]
      exact scan.eq_5 c rest (fun _ h => absurd h opening) (fun _ h => absurd h closing) opening

theorem scan_text (chars rest : List Char) :
    scan (chars.flatMap doubled ++ rest) = chars.map (fun c => .text [c]) ++ scan rest := by
  induction chars with
  | nil => rfl
  | cons c chars ih =>
    rw [List.flatMap_cons, List.append_assoc, scan_doubled, ih]
    rfl

theorem scan_hole {name : List Char} (h : HoleName name) (rest : List Char) :
    scan ('\x7b' :: (name ++ '\x7d' :: rest)) = .hole name :: scan rest := by
  have inside : ∀ c ∈ name, (c != '\x7d') = true := by
    intro c mem
    exact bne_iff_ne.mpr fun hc => h.noClosing (hc ▸ mem)
  have single : ∀ more, name ++ '\x7d' :: rest = '\x7b' :: more → False := by
    intro more eq
    cases name with
    | nil => exact absurd (List.cons.inj eq).1 (by decide)
    | cons c name => exact h.noOpening (congrArg some (List.cons.inj eq).1)
  rw [scan.eq_4 _ single, List.takeWhile_append_of_pos inside, List.dropWhile_append_of_pos inside]
  simp

theorem consText_consText (chars more : List Char) (ps : Template) :
    consText chars (consText more ps) = consText (chars ++ more) ps := by
  match ps with
  | .text last :: rest => simp [consText]
  | .hole name :: rest => rfl
  | [] => rfl

/-- Characters in a row are joined to one text. -/
theorem joinTexts_letters (filled : chars ≠ []) (ps : Template) :
    joinTexts (chars.map (fun c => .text [c]) ++ ps) = consText chars (joinTexts ps) := by
  induction chars with
  | nil => exact absurd rfl filled
  | cons c chars ih =>
    cases chars with
    | nil => rfl
    | cons next chars =>
      rw [List.map_cons, List.cons_append, joinTexts, ih (List.cons_ne_nil _ _), consText_consText]
      rfl

/-- A text that is not followed by one is a piece of its own. -/
theorem consText_of_apart (h : (.text chars :: ps : Template).IsChain Piece.Apart) :
    consText chars ps = .text chars :: ps := by
  unfold consText
  split
  next more rest => exact absurd ⟨rfl, rfl⟩ (List.isChain_cons_cons.mp h).1
  next => rfl

/-- **The scanner undoes the writing.** -/
theorem joinTexts_scan_written (apart : ps.IsChain Piece.Apart) (proper : ∀ p ∈ ps, p.Proper) :
    joinTexts (scan ps.written) = ps := by
  induction ps with
  | nil => exact congrArg joinTexts scan.eq_1
  | cons p ps ih =>
    obtain ⟨hp, hps⟩ := List.forall_mem_cons.mp proper
    have rest := ih (List.isChain_cons.mp apart).2 hps
    rw [written, List.flatMap_cons]
    cases p with
    | text chars =>
      rw [Piece.written, scan_text, joinTexts_letters hp, ← written, rest,
        consText_of_apart apart]
    | hole name =>
      rw [Piece.written, List.cons_append, List.append_assoc, List.singleton_append, scan_hole hp,
        joinTexts, ← written, rest]

/-- **Normal pieces are read again from what they are written as.** -/
theorem Normal.ofFormat_written (h : ps.Normal) : ofFormat ps.written = ps := by
  by_cases empty : .text [] ∈ ps
  · rw [h.filled empty]
    exact congrArg (fun pieces => orEmpty (joinTexts pieces)) scan.eq_1
  · have proper : ∀ p ∈ ps, p.Proper := by
      intro p mem
      cases p with
      | text chars =>
        rintro rfl
        exact empty mem
      | hole name => exact h.holes name mem
    rw [ofFormat, joinTexts_scan_written h.apart proper]
    cases ps with
    | nil => exact absurd rfl h.nonempty
    | cons p rest => rfl

end Template

/-! ## 4. Reading and writing are inverse -/

/-- **Reading a format template is the inverse of writing one.** Every template, well-formed or not,
is read as normal pieces; normal pieces are read again from the template that writes them; so the
normal pieces are exactly those that templates have. -/
theorem format_templates_normal :
    (∀ template : String, (Template.ofFormat template.toList).Normal) ∧
    (∀ ps : Template, ps.Normal → Template.ofFormat ps.written = ps) ∧
    ∀ ps : Template, ps.Normal ↔ ∃ template : String, Template.ofFormat template.toList = ps := by
  refine ⟨fun template => Template.normal_ofFormat _, fun ps h => h.ofFormat_written, fun ps => ?_⟩
  constructor
  · intro h
    refine ⟨String.ofList ps.written, ?_⟩
    rw [String.toList_ofList]
    exact h.ofFormat_written
  · rintro ⟨template, rfl⟩
    exact Template.normal_ofFormat _

/-- The pieces of `{{{p}}}{}`: a hole between two braces, and one without a name. -/
def bracedHole : Template := [.text ['\x7b'], .hole ['p'], .text ['\x7d'], .hole []]

/-- Braces at both seams of a hole are read again. -/
theorem bracedHole_normal :
    bracedHole.Normal ∧
    bracedHole.written = "\x7b\x7b\x7bp\x7d\x7d\x7d\x7b\x7d".toList ∧
    Template.ofFormat bracedHole.written = bracedHole := by
  have normal : bracedHole.Normal := by
    refine ⟨by decide, ?_, by decide, ?_⟩
    · simp [bracedHole, Piece.Apart, Piece.isText]
    · intro name mem
      have : name = ['p'] ∨ name = [] := by simpa [bracedHole] using mem
      rcases this with rfl | rfl <;> exact ⟨by decide, by decide⟩
  exact ⟨normal, by decide, format_templates_normal.2.1 _ normal⟩

end Graft
