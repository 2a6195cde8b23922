import ScriptLint.Text.Basic

/-!
# Cuts

A cut is a text in two parts that join to it. Reading a token off the front of a text is a cut, so
whatever is read, nothing of the text is lost: `length_rest_le`, `size_taken_add`.
-/

namespace ScriptLint

structure Cut (whole : Text) where
  taken : Text
  rest : Text
  joined : taken ++ rest = whole

namespace Cut

variable {whole : Text}

def none (whole : Text) : Cut whole := ⟨[], whole, rfl⟩

/-- The first `n` characters. -/
def take (n : Nat) (whole : Text) : Cut whole :=
  ⟨whole.take n, whole.drop n, List.take_append_drop n whole⟩

/-- The longest run of characters of a class. -/
def run (p : Char → Bool) (whole : Text) : Cut whole :=
  ⟨whole.takeWhile p, whole.dropWhile p, List.takeWhile_append_dropWhile⟩

/-- A cut of a text, read as a cut of the text with one more character in front. -/
def cons (c : Char) (cut : Cut whole) : Cut (c :: whole) :=
  ⟨c :: cut.taken, cut.rest, by rw [List.cons_append, cut.joined]⟩

/-- A cut followed by a cut of what it left. -/
def andThen (first : Cut whole) (next : (cs : Text) → Cut cs) : Cut whole :=
  ⟨first.taken ++ (next first.rest).taken, (next first.rest).rest, by
    rw [List.append_assoc, (next first.rest).joined, first.joined]⟩

theorem length_rest_le (cut : Cut whole) : cut.rest.length ≤ whole.length := by
  have := congrArg List.length cut.joined
  rw [List.length_append] at this
  omega

theorem size_taken_add (cut : Cut whole) : Text.size cut.taken + Text.size cut.rest = Text.size whole := by
  rw [← Text.size_append, cut.joined]

end Cut

end ScriptLint
