import Mathlib.Data.List.DropRight
import ScriptLint.Proofs.Patch
import ScriptLint.Proofs.Rules.Zeroed
import ScriptLint.Proofs.Syntax.Mirrors

/-!
# Gaps between tokens

A gap is a significant lexeme with the trivia in front of it. What the built-in rules change is settled
gap by gap: they put zeros at the points of numbers, and put space between a tag and its template or
take it out (`Gap.patches`). What comes out is a gap again (`Gap.mended`), and there is nothing to
change in it (`Gap.edits_patches_mended`).
-/

namespace ScriptLint

namespace Lexeme

/-- The trivia that a run of lexemes ends with. -/
def triviaBehind (read : List Lexeme) : List Lexeme := read.rtakeWhile isTrivia

/-- A run of lexemes without the trivia that it ends with. -/
def upToLast (read : List Lexeme) : List Lexeme := read.rdropWhile isTrivia

/-- The last significant lexeme of a run. -/
def lastOf (read : List Lexeme) : Option Lexeme := (upToLast read).getLast?

variable {read : List Lexeme} {l : Lexeme}

theorem respells_zeroed : Respells zeroed where
  kind := kind_zeroed
  word l word := zeroed_of_ne fun number => by
    rw [number] at word
    cases word

theorem upToLast_append_triviaBehind (read : List Lexeme) :
    upToLast read ++ triviaBehind read = read :=
  List.rdropWhile_append_rtakeWhile ..

theorem isTrivia_of_mem_triviaBehind (mem : l ∈ triviaBehind read) : l.isTrivia = true :=
  List.mem_rtakeWhile_imp mem

theorem mem_of_mem_triviaBehind (mem : l ∈ triviaBehind read) : l ∈ read :=
  (List.rtakeWhile_suffix _ _).subset mem

theorem significant_of_lastOf (last : lastOf read = some l) : l.isTrivia = false := by
  have some : read.rdropWhile isTrivia ≠ [] := fun none => by simp [lastOf, upToLast, none] at last
  have eq : (read.rdropWhile isTrivia).getLast some = l := by
    simpa [lastOf, upToLast, List.getLast?_eq_some_getLast some] using last
  simpa [eq] using List.rdropWhile_last_not isTrivia read some

theorem triviaBehind_trivia (trivia : l.isTrivia = true) (read : List Lexeme) :
    triviaBehind (read ++ [l]) = triviaBehind read ++ [l] :=
  List.rtakeWhile_concat_pos _ _ _ trivia

theorem upToLast_trivia (trivia : l.isTrivia = true) (read : List Lexeme) :
    upToLast (read ++ [l]) = upToLast read :=
  List.rdropWhile_concat_pos _ _ _ trivia

theorem triviaBehind_significant (significant : l.isTrivia = false) (read : List Lexeme) :
    triviaBehind (read ++ [l]) = [] :=
  List.rtakeWhile_concat_neg _ _ _ (by simp [significant])

theorem upToLast_significant (significant : l.isTrivia = false) (read : List Lexeme) :
    upToLast (read ++ [l]) = read ++ [l] :=
  List.rdropWhile_concat_neg _ _ _ (by simp [significant])

theorem lastOf_significant (significant : l.isTrivia = false) (read : List Lexeme) :
    lastOf (read ++ [l]) = some l := by
  rw [lastOf, upToLast_significant significant, List.getLast?_concat]

theorem behind_trivia {ts : List Lexeme} (trivia : ∀ l ∈ ts, l.isTrivia = true) (read : List Lexeme) :
    triviaBehind (read ++ ts) = triviaBehind read ++ ts ∧ lastOf (read ++ ts) = lastOf read := by
  induction ts generalizing read with
  | nil => simp
  | cons t ts ih =>
    have first := trivia t List.mem_cons_self
    obtain ⟨behind, last⟩ := ih (fun l mem => trivia l (List.mem_cons_of_mem t mem)) (read ++ [t])
    rw [List.append_assoc, List.singleton_append] at behind last
    rw [behind, last, triviaBehind_trivia first, lastOf, upToLast_trivia first]
    exact ⟨by simp, rfl⟩

end Lexeme

namespace Rules

open Lexeme (join triviaBehind upToLast lastOf)

/-- A significant lexeme with the trivia in front of it and the significant lexeme before that, and
whether it is the template of a tag. -/
structure Gap where
  before : Option Lexeme
  trivia : List Lexeme
  token : Lexeme
  tagged : Bool

def space : Lexeme := ⟨.whitespace, [' ']⟩

namespace Gap

variable {wide : Bool} {g : Gap}

def lexemes (g : Gap) : List Lexeme := g.trivia ++ [g.token]

def isSpaced (g : Gap) : Bool := g.trivia.any fun l => l.kind == .whitespace

/-- Whether a comment runs to the end of its line. -/
def endsLine (g : Gap) : Bool := g.trivia.any fun l => l.kind == .lineComment

def comments (g : Gap) : List Lexeme := g.trivia.filter fun l => l.kind.isComment

/-- Whether the token touches a word before it. -/
def touchesWord (g : Gap) : Bool :=
  g.trivia.isEmpty && g.before.any fun l => l.text.getLast?.any Text.isWordPart

/-- Whether space is missing between a tag and its template. -/
def lacks (wide : Bool) (g : Gap) : Bool := g.tagged && wide && ! g.isSpaced

/-- Whether there is space to be taken out between a tag and its template. -/
def exceeds (wide : Bool) (g : Gap) : Bool := g.tagged && ! wide && g.isSpaced && ! g.endsLine

/-- Whether a blank has to keep the token and a zero in front of it apart from the word before. -/
def parts (g : Gap) : Bool := g.token.leads && g.touchesWord

/-- The trivia as they ought to be. -/
def spacing (wide : Bool) (g : Gap) : List Lexeme :=
  if g.lacks wide then space :: g.trivia
  else if g.exceeds wide then g.comments
  else g.trivia

/-- The gap as it ought to be. -/
def mended (wide : Bool) (g : Gap) : Gap where
  before := g.before.map Lexeme.zeroed
  trivia := g.spacing wide ++ if g.parts then [space] else []
  token := g.token.zeroed
  tagged := g.tagged

def spacingPatches (wide : Bool) (g : Gap) : List Patch :=
  if g.lacks wide then [.change [] [' '], .keep (join g.trivia)]
  else if g.exceeds wide then [.change (join g.trivia) (join g.comments)]
  else [.keep (join g.trivia)]

def zeroPatches (g : Gap) : List Patch :=
  if g.token.leads then
    [.change [] (if g.touchesWord then [' ', '0'] else ['0']), .keep g.token.text]
  else if g.token.trails then [.keep g.token.text, .change [] ['0']]
  else [.keep g.token.text]

/-- The gap with what is put in place of its parts. -/
def patches (wide : Bool) (g : Gap) : List Patch := g.spacingPatches wide ++ g.zeroPatches

theorem source_spacingPatches (wide : Bool) (g : Gap) :
    Patch.source (g.spacingPatches wide) = join g.trivia := by
  unfold spacingPatches
  split
  · simp [Patch.source, Patch.change, Patch.keep]
  split <;> simp [Patch.source, Patch.change, Patch.keep]

theorem output_spacingPatches (wide : Bool) (g : Gap) :
    Patch.output (g.spacingPatches wide) = join (g.spacing wide) := by
  unfold spacingPatches Gap.spacing
  split
  · simp [Patch.output, Patch.result, Patch.change, Patch.keep, join, space]
  split <;> simp [Patch.output, Patch.result, Patch.change, Patch.keep]

theorem source_patches (wide : Bool) (g : Gap) : Patch.source (g.patches wide) = join g.lexemes := by
  have zero : Patch.source g.zeroPatches = g.token.text := by
    unfold zeroPatches
    split
    · simp [Patch.source, Patch.change, Patch.keep]
    split <;> simp [Patch.source, Patch.change, Patch.keep]
  rw [patches, Patch.source_append, source_spacingPatches, zero, lexemes, Lexeme.join_append]
  simp [join]

theorem output_patches (wide : Bool) (g : Gap) :
    Patch.output (g.patches wide) = join (g.mended wide).lexemes := by
  have zero : Patch.output g.zeroPatches =
      join ((if g.parts then [space] else []) ++ [g.token.zeroed]) := by
    unfold zeroPatches Gap.parts Lexeme.zeroed
    by_cases leads : g.token.leads
    · by_cases touches : g.touchesWord <;>
        simp [leads, touches, Patch.output, Patch.result, Patch.change, Patch.keep, join, space]
    · by_cases trails : g.token.trails <;>
        simp [leads, trails, Patch.output, Patch.result, Patch.change, Patch.keep, join]
  rw [patches, Patch.output_append, output_spacingPatches, zero, lexemes, mended, List.append_assoc,
    Lexeme.join_append (Gap.spacing wide g)]

theorem isTrivia_spacing (trivia : ∀ l ∈ g.trivia, l.isTrivia = true) :
    ∀ l ∈ g.spacing wide, l.isTrivia = true := by
  intro l mem
  unfold Gap.spacing at mem
  split at mem
  · rcases List.mem_cons.1 mem with rfl | among
    · rfl
    · exact trivia l among
  split at mem
  · exact trivia l (List.mem_filter.1 mem).1
  · exact trivia l mem

theorem isTrivia_mended (trivia : ∀ l ∈ g.trivia, l.isTrivia = true) :
    ∀ l ∈ (g.mended wide).trivia, l.isTrivia = true := by
  intro l mem
  rcases List.mem_append.1 mem with spacing | blank
  · exact isTrivia_spacing trivia l spacing
  · split at blank
    · obtain rfl := List.mem_singleton.1 blank
      rfl
    · cases blank

/-- What the tree says about the template of a tag: which kind it has, and that the tag ends with
something else than a slash. -/
structure Fits (g : Gap) : Prop where
  template : g.tagged = true → g.token.kind = .template
  tag : g.tagged = true → ∃ l, g.before = some l ∧ l.kind ≠ .slash

theorem Fits.parts (fits : g.Fits) (tagged : g.tagged = true) : g.parts = false := by
  simp [Gap.parts, Lexeme.leads, fits.template tagged]

/-- Trivia without white space are comments. -/
theorem isComment_of_unspaced (trivia : ∀ l ∈ g.trivia, l.isTrivia = true)
    (unspaced : g.isSpaced = false) : ∀ l ∈ g.trivia, l.kind.isComment = true := by
  intro l mem
  have trivia := trivia l mem
  have blank : l.kind ≠ .whitespace := by
    simp only [isSpaced, List.any_eq_false] at unspaced
    simpa using unspaced l mem
  cases kind : l.kind <;>
    simp_all [Lexeme.isTrivia, SyntaxKind.isTrivia, SyntaxKind.isComment]

theorem isSpaced_comments (g : Gap) :
    (g.comments.any fun l => l.kind == .whitespace) = false := by
  simp only [comments, List.any_filter, List.any_eq_false]
  intro l mem
  cases kind : l.kind <;> simp [SyntaxKind.isComment]

theorem lacks_mended (fits : g.Fits) : (g.mended wide).lacks wide = false := by
  unfold lacks
  by_cases asked : g.tagged && wide
  · obtain ⟨tagged, rfl⟩ := Bool.and_eq_true_iff.1 asked
    have spaced : (g.mended true).isSpaced = true := by
      cases already : g.isSpaced with
      | false =>
        have lacks : g.lacks true = true := by simp [Gap.lacks, tagged, already]
        simp [isSpaced, mended, Gap.spacing, lacks, space]
      | true =>
        have lacks : g.lacks true = false := by simp [Gap.lacks, already]
        have exceeds : g.exceeds true = false := by simp [Gap.exceeds]
        simp [isSpaced, mended, Gap.spacing, lacks, exceeds, fits.parts tagged]
        simpa [isSpaced] using already
    simp [spaced]
  · simp [mended, Bool.eq_false_iff.2 asked]

theorem exceeds_mended (fits : g.Fits) : (g.mended wide).exceeds wide = false := by
  unfold exceeds
  by_cases asked : g.tagged && ! wide
  · obtain ⟨tagged, rfl⟩ : g.tagged = true ∧ wide = false := by simpa using asked
    have lacks : g.lacks false = false := by simp [Gap.lacks]
    by_cases exceeds : g.exceeds false
    · have none := isSpaced_comments g
      simp [mended, Gap.spacing, lacks, exceeds, fits.parts tagged, isSpaced, none]
    · have same : (g.mended false).trivia = g.trivia := by
        simp [mended, Gap.spacing, lacks, exceeds, fits.parts tagged]
      have kept : ((g.mended false).isSpaced && ! (g.mended false).endsLine) =
          (g.isSpaced && ! g.endsLine) := by
        simp only [isSpaced, endsLine, same]
      rw [Bool.and_assoc, kept]
      simpa [Gap.exceeds, tagged, mended] using exceeds
  · simp [mended, Bool.eq_false_iff.2 asked]

/-- There is nothing to change in a gap that is as it ought to be. -/
theorem edits_patches_mended {behind : Text} (fits : g.Fits) (stands : g.token.Stands behind)
    (start : Nat) :
    Patch.edits start ((g.mended wide).patches wide) = [] := by
  have leads : (g.mended wide).token.leads = false := Lexeme.leads_zeroed g.token
  have trails : (g.mended wide).token.trails = false := stands.trails_zeroed
  simp [patches, spacingPatches, zeroPatches, lacks_mended fits, exceeds_mended fits, leads,
    trails, Patch.edits, Patch.keep]

/-- Whether nothing is to be put where a zero is put behind the token before. -/
structure Clear (wide : Bool) (g : Gap) : Prop where
  spacing : g.lacks wide = true → g.before.any Lexeme.trails = false
  zero : g.token.leads = true → g.trivia = [] → g.before.any Lexeme.trails = false

theorem apart_zeroPatches (inserted : Bool) {rest : List Patch} (filled : g.token.text ≠ [])
    (free : g.token.leads = true → inserted = false) (apart : Patch.Apart g.token.trails rest) :
    Patch.Apart inserted (g.zeroPatches ++ rest) := by
  have some : g.token.text.isEmpty = false := by simpa using filled
  unfold zeroPatches
  by_cases leads : g.token.leads
  · have trails : g.token.trails = false := by
      simp only [Lexeme.leads, Bool.and_eq_true, beq_iff_eq] at leads
      simp [Lexeme.trails, leads]
    rw [trails] at apart
    simp [leads, free leads, Patch.Apart, Patch.change, Patch.keep, some, apart]
  · by_cases trails : g.token.trails
    · rw [trails] at apart
      simp [leads, trails, Patch.Apart, Patch.change, Patch.keep, some, apart]
    · rw [Bool.eq_false_iff.2 trails] at apart
      simp [leads, trails, Patch.Apart, Patch.keep, some, apart]

theorem apart_patches {rest : List Patch} (fits : g.Fits) (clear : g.Clear wide)
    (filled : ∀ l ∈ g.lexemes, l.text ≠ []) (apart : Patch.Apart g.token.trails rest) :
    Patch.Apart (g.before.any Lexeme.trails) (g.patches wide ++ rest) := by
  have some : g.token.text ≠ [] := filled _ (by simp [lexemes])
  have gap : g.trivia ≠ [] → (join g.trivia).isEmpty = false := by
    intro more
    obtain ⟨t, ts, eq⟩ := List.exists_cons_of_ne_nil more
    have first := filled t (by simp [lexemes, eq])
    rw [eq, Lexeme.join_cons]
    simp [first]
  have plain : g.tagged = true → g.token.leads = false := by
    intro tagged
    simp [Lexeme.leads, fits.template tagged]
  rw [patches, List.append_assoc]
  unfold spacingPatches
  by_cases lacks : g.lacks wide
  · have tagged : g.tagged = true := by
      simp only [Gap.lacks, Bool.and_eq_true] at lacks
      exact lacks.1.1
    have next := fun inserted => apart_zeroPatches inserted some
      (by simp [plain tagged]) apart
    simp [lacks, clear.spacing lacks, Patch.Apart, Patch.change, Patch.keep, next]
  · by_cases exceeds : g.exceeds wide
    · simp only [Gap.exceeds, Bool.and_eq_true] at exceeds
      have more : g.trivia ≠ [] := by
        rintro none
        simp [isSpaced, none] at exceeds
      have next := fun inserted => apart_zeroPatches inserted some
        (by simp [plain exceeds.1.1.1]) apart
      have taken := gap more
      simp [lacks, Gap.exceeds, exceeds, Patch.Apart, Patch.change, taken, next]
      intro none
      simp [none] at taken
    · have next := apart_zeroPatches ((join g.trivia).isEmpty && g.before.any Lexeme.trails)
        some (fun leads => ?_) apart
      · simpa [lacks, exceeds, Patch.Apart, Patch.keep] using next
      · by_cases none : g.trivia = []
        · simp [clear.zero leads none]
        · simp [gap none]

/-- What a parser sees of a gap: whether a line ends in it, and the token. -/
def item (g : Gap) : Bool × Lexeme := (g.trivia.any Lexeme.hasLineBreak, g.token)

theorem along_mended (wide : Bool) {gs : List Gap} (fits : ∀ g ∈ gs, g.Fits) :
    Lexeme.Along Lexeme.zeroed (gs.map Gap.tagged) (gs.map item)
      (gs.map fun g => (g.mended wide).item) := by
  induction gs with
  | nil => exact .nil
  | cons g gs ih =>
    refine .cons ?_ (ih fun h mem => fits h (List.mem_cons_of_mem g mem))
    cases tagged : g.tagged with
    | true => exact .inr ⟨rfl, (fits g List.mem_cons_self).template tagged⟩
    | false =>
      refine .inl ?_
      have lacks : g.lacks wide = false := by simp [Gap.lacks, tagged]
      have exceeds : g.exceeds wide = false := by simp [Gap.exceeds, tagged]
      have blank : space.hasLineBreak = false := by decide
      by_cases parts : g.parts <;>
        simp [mended, Gap.spacing, lacks, exceeds, parts, blank]

/-- Whether gaps are made anew token by token, with other trivia. -/
structure Remakes (spell : Lexeme → Lexeme) (f : Gap → Gap) : Prop where
  respells : Lexeme.Respells spell
  before (g : Gap) : (f g).before = g.before.map spell
  trivia {g : Gap} (trivia : ∀ l ∈ g.trivia, l.isTrivia = true) : ∀ l ∈ (f g).trivia, l.isTrivia = true
  token (g : Gap) : (f g).token = spell g.token
  tagged (g : Gap) : (f g).tagged = g.tagged

theorem remakes_mended (wide : Bool) : Remakes Lexeme.zeroed (Gap.mended wide) where
  respells := Lexeme.respells_zeroed
  before _ := rfl
  trivia := isTrivia_mended
  token _ := rfl
  tagged _ := rfl

end Gap

end Rules

end ScriptLint
