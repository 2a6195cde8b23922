import Mathlib.Data.List.Forall2
import Mathlib.Data.List.Infix
import ScriptLint.Proofs.Runs
import ScriptLint.Rule.Template

/-!
# Filling templates

A template comes in pieces: literal text without braces, and placeholders. A placeholder is told by how
it comes in parts (`placeholder?_eq_some_iff`), so no placeholder reaches over from one piece to the
next, and each piece is filled on its own (`fill_written`). A value is never read again, whatever it
looks like. A text in which no placeholder has a known name stays as it is (`fill_of_unknown`).
-/

namespace ScriptLint.Template

open Text (isSpace)

/-- Whether a text may stand as the name in a placeholder. -/
def IsName (name : Text) : Prop :=
  name ≠ [] ∧ ∀ c ∈ name, c ≠ '{' ∧ c ≠ '}' ∧ isSpace c = false

instance : DecidablePred IsName := fun name =>
  have := List.decidableBAll (fun c => c ≠ '{' ∧ c ≠ '}' ∧ isSpace c = false) name
  inferInstanceAs (Decidable (name ≠ [] ∧ ∀ c ∈ name, c ≠ '{' ∧ c ≠ '}' ∧ isSpace c = false))

def IsBlank (t : Text) : Prop := ∀ c ∈ t, isSpace c = true

instance : DecidablePred IsBlank := fun t => List.decidableBAll (fun c => isSpace c = true) t

/-- What a template is made of. The white space around a name belongs to its placeholder. -/
inductive Piece where
  | literal (text : Text)
  | placeholder (before name after : Text)
  deriving DecidableEq, Repr

namespace Piece

def written : Piece → Text
  | .literal text => text
  | .placeholder before name after => '{' :: '{' :: (before ++ name ++ after ++ ['}', '}'])

def Proper : Piece → Prop
  | .literal text => '{' ∉ text ∧ '}' ∉ text
  | .placeholder before name after => IsBlank before ∧ IsName name ∧ IsBlank after

instance : DecidablePred Proper
  | .literal text => inferInstanceAs (Decidable ('{' ∉ text ∧ '}' ∉ text))
  | .placeholder before name after =>
    inferInstanceAs (Decidable (IsBlank before ∧ IsName name ∧ IsBlank after))

end Piece

/-- Whether a name has a value: that of the last entry with this name. -/
def Holds (data : Data) (name value : String) : Prop :=
  ∃ earlier later, data = earlier ++ (name, value) :: later ∧ ∀ entry ∈ later, entry.1 ≠ name

/-- What a piece becomes. -/
inductive Fills (data : Data) : Piece → Text → Prop where
  | literal (text : Text) : Fills data (.literal text) text
  | known {before name after : Text} {value : String} (holds : Holds data (String.ofList name) value) :
      Fills data (.placeholder before name after) value.toList
  | unknown {before name after : Text} (absent : ∀ entry ∈ data, entry.1 ≠ String.ofList name) :
      Fills data (.placeholder before name after) (Piece.placeholder before name after).written

/-- Whether a text holds a placeholder of this name anywhere. -/
def Occurs (name t : Text) : Prop :=
  ∃ front before after rest, t = front ++ (Piece.placeholder before name after).written ++ rest ∧
    (Piece.placeholder before name after).Proper

/-! ## Placeholders -/

section
variable {name before after rest cs t : Text} {p : Placeholder}

theorem isNameChar_iff {c : Char} : isNameChar c = true ↔ c ≠ '{' ∧ c ≠ '}' ∧ isSpace c = false := by
  simp [isNameChar, and_assoc]

theorem isNameChar_of_isSpace {c : Char} (space : isSpace c = true) : isNameChar c = false := by
  simp [isNameChar, space]

theorem isSpace_closing : isSpace '}' = false := by decide

theorem isNameChar_closing : isNameChar '}' = false := by decide

/-- What follows the opening braces of a placeholder comes in white space, a name, white space and the
closing braces. -/
theorem afterBraces?_eq_some_iff : afterBraces? cs = some p ↔
    ∃ before after rest, cs = before ++ p.name ++ after ++ '}' :: '}' :: rest ∧
      IsBlank before ∧ IsName p.name ∧ IsBlank after ∧
      p.written = before ++ p.name ++ after ++ ['}', '}'] := by
  constructor
  · intro found
    unfold afterBraces? at found
    dsimp only at found
    split at found
    · rename_i c name rest first closing
      obtain rfl := Option.some.inj found
      refine ⟨_, _, rest, ?_, fun c => List.mem_takeWhile_imp, ⟨?_, fun d mem => ?_⟩,
        fun c => List.mem_takeWhile_imp, rfl⟩
      · rw [← closing, List.append_assoc, List.append_assoc, List.takeWhile_append_dropWhile,
          List.takeWhile_append_dropWhile, List.takeWhile_append_dropWhile]
      · exact fun empty => List.cons_ne_nil c name (first.symm.trans empty)
      · exact isNameChar_iff.1 (List.mem_takeWhile_imp mem)
    · cases found
  · rintro ⟨before, after, rest, rfl, blank, ⟨some, plain⟩, blank', written⟩
    have named : ∀ c ∈ p.name, isNameChar c = true := fun c mem => isNameChar_iff.2 (plain c mem)
    have apart : ∀ c ∈ (p.name ++ (after ++ '}' :: '}' :: rest)).head?, isSpace c = false := by
      obtain ⟨c, cs, eq⟩ := List.exists_cons_of_ne_nil some
      rw [eq] at plain ⊢
      rintro d ⟨⟩
      exact (plain c List.mem_cons_self).2.2
    have ends : ∀ c ∈ (after ++ '}' :: '}' :: rest).head?, isNameChar c = false := by
      cases after with
      | nil => rintro d ⟨⟩; exact isNameChar_closing
      | cons c after =>
        rintro d ⟨⟩
        exact isNameChar_of_isSpace (blank' c List.mem_cons_self)
    have closes : ∀ c ∈ ('}' :: '}' :: rest).head?, isSpace c = false := by
      rintro d ⟨⟩
      exact isSpace_closing
    obtain ⟨c, name, eq⟩ := List.exists_cons_of_ne_nil some
    unfold afterBraces?
    simp only [List.append_assoc, takeWhile_of_parts blank apart, dropWhile_of_parts blank apart,
      takeWhile_of_parts named ends, dropWhile_of_parts named ends, takeWhile_of_parts blank' closes,
      dropWhile_of_parts blank' closes]
    rw [eq]
    refine congrArg Option.some (?_ : Placeholder.mk _ _ = p)
    rw [← eq]
    simp only [← List.append_assoc, ← written]

theorem placeholder?_eq_some_iff : placeholder? cs = some p ↔
    ∃ before after rest, cs = (Piece.placeholder before p.name after).written ++ rest ∧
      (Piece.placeholder before p.name after).Proper ∧
      p.written = (Piece.placeholder before p.name after).written := by
  have parts (before after rest : Text) :
      (Piece.placeholder before p.name after).written ++ rest =
        '{' :: '{' :: (before ++ p.name ++ after ++ '}' :: '}' :: rest) := by
    simp [Piece.written]
  constructor
  · intro found
    unfold placeholder? at found
    split at found
    · obtain ⟨inner, behind, rfl⟩ := Option.map_eq_some_iff.1 found
      obtain ⟨before, after, rest, rfl, blank, named, blank', written⟩ :=
        afterBraces?_eq_some_iff.1 behind
      exact ⟨before, after, rest, by rw [parts], ⟨blank, named, blank'⟩, by rw [written]; rfl⟩
    · cases found
  · rintro ⟨before, after, rest, rfl, ⟨blank, named, blank'⟩, written⟩
    have inner : afterBraces? (before ++ p.name ++ after ++ '}' :: '}' :: rest) =
        some ⟨p.name, before ++ p.name ++ after ++ ['}', '}']⟩ :=
      afterBraces?_eq_some_iff.2 ⟨before, after, rest, rfl, blank, named, blank', rfl⟩
    rw [parts, placeholder?, inner, Option.map_some]
    exact congrArg some (by cases p; rw [Placeholder.mk.injEq]; exact ⟨rfl, written.symm⟩)

end

/-- A placeholder occurs in a text if some end of the text starts with it. -/
theorem occurs_iff {name t : Text} :
    Occurs name t ↔ ∃ cs ∈ t.tails, (placeholder? cs).map Placeholder.name = some name := by
  simp only [List.mem_tails, Option.map_eq_some_iff]
  constructor
  · rintro ⟨front, before, after, rest, rfl, proper⟩
    exact ⟨(Piece.placeholder before name after).written ++ rest, ⟨front, (List.append_assoc ..).symm⟩,
      ⟨name, (Piece.placeholder before name after).written⟩,
      placeholder?_eq_some_iff.2 ⟨before, after, rest, rfl, proper, rfl⟩, rfl⟩
  · rintro ⟨cs, ⟨front, rfl⟩, p, found, rfl⟩
    obtain ⟨before, after, rest, rfl, proper, -⟩ := placeholder?_eq_some_iff.1 found
    exact ⟨front, before, after, rest, (List.append_assoc ..).symm, proper⟩

instance (name t : Text) : Decidable (Occurs name t) := decidable_of_iff' _ occurs_iff

/-! ## Values -/

section
variable {data : Data} {name : Text} {value : String}

theorem value?_of_holds (holds : Holds data (String.ofList name) value) :
    value? data name = some value.toList := by
  obtain ⟨earlier, later, rfl, last⟩ := holds
  have unlisted : later.reverse.lookup (String.ofList name) = none :=
    List.lookup_eq_none_iff.2 fun entry mem =>
      bne_iff_ne.2 (Ne.symm (last entry (List.mem_reverse.1 mem)))
  simp [value?, List.lookup_append, unlisted]

theorem value?_of_unknown (absent : ∀ entry ∈ data, entry.1 ≠ String.ofList name) :
    value? data name = none := by
  have unlisted : data.reverse.lookup (String.ofList name) = none :=
    List.lookup_eq_none_iff.2 fun entry mem =>
      bne_iff_ne.2 (Ne.symm (absent entry (List.mem_reverse.1 mem)))
  rw [value?, unlisted, Option.map_none]

/-- A name has a value, or it stands in no entry. -/
theorem holds_or_unknown (data : Data) (name : String) :
    (∃ value, Holds data name value) ∨ ∀ entry ∈ data, entry.1 ≠ name := by
  induction data with
  | nil => exact .inr (by simp)
  | cons entry data ih =>
    rcases ih with ⟨value, earlier, later, rfl, last⟩ | absent
    · exact .inl ⟨value, entry :: earlier, later, rfl, last⟩
    · by_cases same : entry.1 = name
      · exact .inl ⟨entry.2, [], data, by rw [← same]; rfl, absent⟩
      · exact .inr (by simpa [same] using absent)

end

/-! ## Filling -/

section
variable {data : Data} {cs t : Text} {c : Char} {piece : Piece}

theorem fill_skip (data : Data) (skip : Nat) (cs : Text) :
    fill data skip cs = fill data 0 (cs.drop skip) := by
  induction cs generalizing skip with
  | nil => simp [fill]
  | cons c cs ih =>
    cases skip with
    | zero => rfl
    | succ skip => rw [fill, ih, List.drop_succ_cons]

theorem fill_plain (plain : c ≠ '{') : fill data 0 (c :: cs) = c :: fill data 0 cs := by
  have none : placeholder? (c :: cs) = none := by
    unfold placeholder?
    split
    · rename_i eq
      exact absurd (List.cons.inj eq).1 plain
    · rfl
  rw [fill, none]

/-- What a placeholder becomes depends on nothing that comes behind it. -/
theorem fill_placeholder {before name after : Text}
    (proper : (Piece.placeholder before name after).Proper) (rest : Text) :
    fill data 0 ((Piece.placeholder before name after).written ++ rest) =
      (value? data name).getD (Piece.placeholder before name after).written ++ fill data 0 rest := by
  have found : placeholder? ((Piece.placeholder before name after).written ++ rest) =
      some ⟨name, (Piece.placeholder before name after).written⟩ :=
    placeholder?_eq_some_iff.2 ⟨before, after, rest, rfl, proper, rfl⟩
  generalize whole : (Piece.placeholder before name after).written = written at found ⊢
  cases written with
  | nil => cases whole
  | cons c written =>
    rw [List.cons_append] at found ⊢
    simp only [fill, found, List.length_cons, Nat.add_sub_cancel]
    rw [fill_skip, List.drop_left]

theorem fill_literal (noBrace : '{' ∉ t) (rest : Text) :
    fill data 0 (t ++ rest) = t ++ fill data 0 rest := by
  induction t with
  | nil => rfl
  | cons c t ih =>
    obtain ⟨first, later⟩ := not_or.1 (mt List.mem_cons.2 noBrace)
    rw [List.cons_append, fill_plain (Ne.symm first), ih later, List.cons_append]

theorem exists_fills (data : Data) (piece : Piece) : ∃ part, Fills data piece part := by
  cases piece with
  | literal text => exact ⟨text, .literal text⟩
  | placeholder before name after =>
    rcases holds_or_unknown data (String.ofList name) with ⟨value, holds⟩ | absent
    · exact ⟨value.toList, .known holds⟩
    · exact ⟨_, .unknown absent⟩

/-- A piece becomes one thing only. -/
theorem rightUnique_fills (data : Data) : Relator.RightUnique (Fills data) := by
  intro piece part other fills fills'
  have known {name : Text} {value : String} (holds : Holds data (String.ofList name) value)
      (absent : ∀ entry ∈ data, entry.1 ≠ String.ofList name) : False := by
    have found := value?_of_holds holds
    rw [value?_of_unknown absent] at found
    cases found
  cases fills with
  | literal => cases fills'; rfl
  | known holds =>
    cases fills' with
    | known holds' =>
      exact Option.some.inj ((value?_of_holds holds).symm.trans (value?_of_holds holds'))
    | unknown absent => exact (known holds absent).elim
  | unknown absent =>
    cases fills' with
    | known holds => exact (known holds absent).elim
    | unknown => rfl

/-- A piece is filled on its own, whatever comes behind it. -/
theorem fill_written {part : Text} (proper : piece.Proper) (fills : Fills data piece part)
    (rest : Text) : fill data 0 (piece.written ++ rest) = part ++ fill data 0 rest := by
  cases fills with
  | literal => exact fill_literal proper.1 rest
  | known holds => rw [fill_placeholder proper, value?_of_holds holds]; rfl
  | unknown absent => rw [fill_placeholder proper, value?_of_unknown absent]; rfl

theorem fill_pieces (data : Data) {pieces : List Piece} (proper : ∀ piece ∈ pieces, piece.Proper) :
    ∃ parts, List.Forall₂ (Fills data) pieces parts ∧
      fill data 0 (pieces.flatMap Piece.written) = parts.flatten := by
  induction pieces with
  | nil => exact ⟨[], .nil, rfl⟩
  | cons piece pieces ih =>
    obtain ⟨parts, fills, filled⟩ := ih fun p mem => proper p (List.mem_cons_of_mem piece mem)
    obtain ⟨part, here⟩ := exists_fills data piece
    refine ⟨part :: parts, .cons here fills, ?_⟩
    rw [List.flatMap_cons, fill_written (proper piece List.mem_cons_self) here, filled,
      List.flatten_cons]

/-- Nothing is filled where no placeholder has a known name. The placeholder before the place of
reading may reach into the text; it was passed over. -/
theorem fill_of_unknown (unknown : ∀ entry ∈ data, ¬ Occurs entry.1.toList cs) (skip : Nat) :
    fill data skip cs = cs.drop skip := by
  induction cs generalizing skip with
  | nil => simp [fill]
  | cons c cs ih =>
    have later : ∀ entry ∈ data, ¬ Occurs entry.1.toList cs := by
      rintro entry mem ⟨front, before, after, rest, rfl, proper⟩
      exact unknown entry mem ⟨c :: front, before, after, rest, rfl, proper⟩
    cases skip with
    | succ skip => rw [fill, ih later, List.drop_succ_cons]
    | zero =>
      rw [List.drop_zero]
      cases found : placeholder? (c :: cs) with
      | none =>
        simp only [fill, found]
        rw [ih later, List.drop_zero]
      | some p =>
        obtain ⟨before, after, rest, whole, proper, written⟩ := placeholder?_eq_some_iff.1 found
        have none : value? data p.name = none := value?_of_unknown fun entry mem same => by
          refine unknown entry mem ⟨[], before, after, rest, ?_, ?_⟩
          · rw [same, String.toList_ofList, whole, List.nil_append]
          · rw [same, String.toList_ofList]; exact proper
        simp only [fill, found, none, Option.getD_none]
        obtain ⟨inner, first⟩ : ∃ inner, p.written = '{' :: inner := ⟨_, written⟩
        rw [← written, first] at whole
        obtain ⟨rfl, rfl⟩ := List.cons.inj whole
        rw [ih later, first, List.length_cons, Nat.add_sub_cancel]
        exact congrArg ('{' :: inner ++ ·) List.drop_left

end

/-- Filling a template. If it comes in pieces, literal text and placeholders, each of them becomes what
it is to become, and nothing else happens. If no placeholder anywhere in it has a known name, it stays
as it is, be it made of such pieces or not. -/
theorem render_pieces (data : Data) :
    (∀ pieces : List Piece, (∀ piece ∈ pieces, piece.Proper) →
      ∃ parts, List.Forall₂ (Fills data) pieces parts ∧
        render (String.ofList (pieces.flatMap Piece.written)) data = String.ofList parts.flatten) ∧
    ∀ template : String, (∀ entry ∈ data, ¬ Occurs entry.1.toList template.toList) →
      render template data = template := by
  constructor
  · intro pieces proper
    obtain ⟨parts, fills, filled⟩ := fill_pieces data proper
    exact ⟨parts, fills, by rw [render, String.toList_ofList, filled]⟩
  · intro template unknown
    rw [render, fill_of_unknown unknown, List.drop_zero, String.ofList_toList]

/-- Of two placeholders side by side, one has a value that looks like a placeholder. -/
theorem render_pieces_nested :
    render "'\x7b\x7b a\t\x7d\x7d\x7b\x7bb\x7d\x7dx"
        [("a", "old"), ("a", "\x7b\x7b a \x7d\x7d$1")] =
      "'\x7b\x7b a \x7d\x7d$1\x7b\x7bb\x7d\x7dx" ∧
    (¬ Occurs ['a'] "\x7b\x7ba\x7d \x7b\x7b\x7b b \x7d\x7d".toList ∧
      render "\x7b\x7ba\x7d \x7b\x7b\x7b b \x7d\x7d" [("a", "x")] =
        "\x7b\x7ba\x7d \x7b\x7b\x7b b \x7d\x7d") := by
  constructor
  · obtain ⟨parts, fills, rendered⟩ := (render_pieces
      [("a", "old"), ("a", "\x7b\x7b a \x7d\x7d$1")]).1
      [.literal ['\''], .placeholder [' '] ['a'] ['\t'], .placeholder [] ['b'] [], .literal ['x']]
      (by decide)
    have parts_eq := List.right_unique_forall₂' (rightUnique_fills _) fills
      (.cons (.literal _) (.cons (.known ⟨[("a", "old")], [], rfl, by simp⟩)
        (.cons (.unknown (by decide)) (.cons (.literal _) .nil))))
    rw [parts_eq] at rendered
    exact rendered
  · have unknown : ¬ Occurs ['a'] "\x7b\x7ba\x7d \x7b\x7b\x7b b \x7d\x7d".toList := by decide
    exact ⟨unknown, (render_pieces [("a", "x")]).2 _ (by simpa using unknown)⟩

end ScriptLint.Template
