import ScriptLint.Pragma
import ScriptLint.Proofs.Rules.MendedText
import ScriptLint.Proofs.Runs
import ScriptLint.Proofs.Source.Neighbours
import ScriptLint.Proofs.Syntax.Relexing.Returns

/-!
# What the pragma of a file is

An annotation is told by how the inside of a comment comes in parts: `@jsx`, white space and a word, of
which the part before the first point counts; the first place where such parts are counts
(`Annotates`). `Resolves` says from this what the pragma is, by the comments of a text in their order
and by the settings. In a text without errors this is the one name that is found (`resolves_iff`).
-/

namespace ScriptLint

namespace Pragma

open Text (isSpace)

/-- Whether a text starts with white space and a word, and what the word is up to its first point. -/
def Names (behind name : Text) : Prop :=
  ∃ blanks word rest, behind = blanks ++ word ++ rest ∧
    blanks ≠ [] ∧ (∀ c ∈ blanks, isSpace c = true) ∧
    word ≠ [] ∧ (∀ c ∈ word, isSpace c = false) ∧ (∀ c ∈ rest.head?, isSpace c = true) ∧
    ∃ tail, word = name ++ tail ∧ '.' ∉ name ∧ ∀ c ∈ tail.head?, c = '.'

/-- Whether a text has an annotation behind its first characters. -/
def AnnotatedAt (body front name : Text) : Prop :=
  ∃ behind, body = front ++ '@' :: 'j' :: 's' :: 'x' :: behind ∧ Names behind name

/-- Whether the first annotation of a text has this name. -/
def Annotates (body name : Text) : Prop :=
  ∃ front, AnnotatedAt body front name ∧
    ∀ earlier other, earlier.length < front.length → ¬ AnnotatedAt body earlier other

section
variable {behind body name : Text}

theorem annotated?_eq_some_iff : annotated? behind = some name ↔ Names behind name := by
  constructor
  · intro found
    unfold annotated? at found
    dsimp only at found
    split at found
    · rename_i starts
      obtain ⟨first, filled⟩ := Bool.and_eq_true_iff.1 starts
      obtain rfl := Option.some.inj found
      refine ⟨behind.takeWhile isSpace, _, (behind.dropWhile isSpace).dropWhile fun c => ! isSpace c,
        ?_, ?_, fun c => List.mem_takeWhile_imp, ?_, fun c mem => ?_, fun c mem => ?_,
        ((behind.dropWhile isSpace).takeWhile fun c => ! isSpace c).dropWhile (· ≠ '.'),
        List.takeWhile_append_dropWhile.symm, fun mem => ?_, fun c mem => ?_⟩
      · rw [List.append_assoc, List.takeWhile_append_dropWhile, List.takeWhile_append_dropWhile]
      · cases behind with
        | nil => cases first
        | cons c cs => rw [List.takeWhile_cons_of_pos (by simpa using first)]; simp
      · simpa using filled
      · simpa using List.mem_takeWhile_imp mem
      · simpa using head?_dropWhile _ _ c mem
      · simpa using List.mem_takeWhile_imp mem
      · simpa using head?_dropWhile _ _ c mem
    · cases found
  · rintro ⟨blanks, word, rest, rfl, some, blank, filled, whole, ends, tail, rfl, plain, point⟩
    have first : ((blanks ++ (name ++ tail) ++ rest).head?.any isSpace) = true := by
      obtain ⟨c, cs, rfl⟩ := List.exists_cons_of_ne_nil some
      exact blank c List.mem_cons_self
    have start : ∀ c ∈ (name ++ tail ++ rest).head?, isSpace c = false := by
      obtain ⟨c, cs, word⟩ := List.exists_cons_of_ne_nil filled
      rw [word] at whole ⊢
      rintro d ⟨⟩
      exact whole c List.mem_cons_self
    have behind : (blanks ++ (name ++ tail) ++ rest).dropWhile isSpace = name ++ tail ++ rest := by
      rw [List.append_assoc, dropWhile_of_parts blank start]
    have word : (name ++ tail ++ rest).takeWhile (fun c => ! isSpace c) = name ++ tail :=
      takeWhile_of_parts (fun c mem => by simp [whole c mem]) fun c mem => by simp [ends c mem]
    have upToPoint : (name ++ tail).takeWhile (· ≠ '.') = name :=
      takeWhile_of_parts (fun c mem => decide_eq_true fun same => plain (same ▸ mem))
        fun c mem => by simp [point c mem]
    simp only [annotated?, behind, word, first, upToPoint, List.isEmpty_eq_false_iff.2 filled,
      Bool.not_false, Bool.and_self, if_true]

theorem annotatedAt_nil : AnnotatedAt body [] name ↔
    ∃ behind, body = '@' :: 'j' :: 's' :: 'x' :: behind ∧ annotated? behind = some name := by
  simp only [AnnotatedAt, annotated?_eq_some_iff, List.nil_append]

theorem annotatedAt_cons {c d : Char} {cs front : Text} :
    AnnotatedAt (c :: cs) (d :: front) name ↔ c = d ∧ AnnotatedAt cs front name := by
  simp only [AnnotatedAt, List.cons_append, List.cons.injEq, and_assoc, exists_and_left]

/-- The first annotation is at the start, or it is the first one behind the first character. -/
theorem annotates_cons {c : Char} {cs : Text} : Annotates (c :: cs) name ↔
    AnnotatedAt (c :: cs) [] name ∨
      (∀ other, ¬ AnnotatedAt (c :: cs) [] other) ∧ Annotates cs name := by
  constructor
  · rintro ⟨front, here, first⟩
    cases front with
    | nil => exact .inl here
    | cons d front =>
      obtain ⟨rfl, there⟩ := annotatedAt_cons.1 here
      refine .inr ⟨fun other => first [] other (Nat.succ_pos _), front, there, ?_⟩
      intro earlier other less annotated
      exact first (c :: earlier) other (Nat.succ_lt_succ less) (annotatedAt_cons.2 ⟨rfl, annotated⟩)
  · rintro (here | ⟨none, front, here, first⟩)
    · exact ⟨[], here, fun earlier other less => absurd less (Nat.not_lt_zero _)⟩
    · refine ⟨c :: front, annotatedAt_cons.2 ⟨rfl, here⟩, fun earlier other less annotated => ?_⟩
      cases earlier with
      | nil => exact none other annotated
      | cons d earlier =>
        exact first earlier other (Nat.lt_of_succ_lt_succ less) (annotatedAt_cons.1 annotated).2

theorem annotation?_eq_some_iff : annotation? body = some name ↔ Annotates body name := by
  induction body with
  | nil => simp [annotation?, Annotates, AnnotatedAt]
  | cons c cs ih =>
    rw [annotates_cons, annotation?]
    split
    · rename_i behind whole
      have here (name : Text) : AnnotatedAt (c :: cs) [] name ↔ annotated? behind = some name := by
        rw [annotatedAt_nil, whole]
        simp
      simp only [here, ← ih, Option.or_eq_some_iff, Option.eq_none_iff_forall_ne_some, ne_eq]
    · rename_i other
      have nowhere (name : Text) : ¬ AnnotatedAt (c :: cs) [] name := by
        rw [annotatedAt_nil]
        rintro ⟨behind, whole, -⟩
        exact other behind whole
      simp only [nowhere, not_false_eq_true, implies_true, true_and, false_or, ih]

theorem annotation?_eq_none_iff : annotation? body = none ↔ ∀ name, ¬ Annotates body name := by
  simp only [← annotation?_eq_some_iff, Option.eq_none_iff_forall_ne_some, ne_eq]

end

end Pragma

/-! ## Comments -/

/-- Whether a text is the inside of a comment, without its marks. -/
inductive Token.Encloses : Token → Text → Prop where
  | line {body : Text} {start : Nat} : Encloses ⟨.lineComment, '/' :: '/' :: body, start⟩ body
  | block {body : Text} {start : Nat} :
      Encloses ⟨.blockComment, '/' :: '*' :: (body ++ ['*', '/']), start⟩ body

namespace Lexeme

variable {l : Lexeme} {behind : Text}

/-- A block comment that is closed ends with its mark. -/
theorem ends_scanComment {cs : Text} (closed : (scanComment cs).2 = true) :
    ∃ body, (scanComment cs).1.taken = body ++ ['*', '/'] := by
  fun_induction scanComment cs with
  | case1 => cases closed
  | case2 cs => exact ⟨[], rfl⟩
  | case3 c cs other tail ih =>
    obtain ⟨body, ends⟩ := ih closed
    exact ⟨c :: body, congrArg (c :: ·) ends⟩

/-- A comment that is read without an error has its marks around it. -/
theorem Stands.encloses (stands : l.Stands behind) (comment : l.kind.isComment = true) (start : Nat) :
    ∃ body, (Token.mk l.kind l.text start).Encloses body := by
  obtain ⟨kind, text⟩ := l
  obtain ⟨t, rfl⟩ := List.head?_eq_some_iff.1 (stands.head_of_comment comment)
  rcases stands.comment comment with ⟨rfl, -⟩ | ⟨rfl, u, rfl⟩
  · obtain ⟨body, rfl⟩ := stands.slash
    exact ⟨body, .line⟩
  · obtain ⟨taken, closed⟩ := stands_blockComment_iff.1 stands
    obtain ⟨body, ends⟩ := ends_scanComment closed
    obtain rfl : u = body ++ ['*', '/'] := taken.symm.trans ends
    exact ⟨body, .block⟩

end Lexeme

theorem commentBody_of_encloses {c : Token} {body : Text} (encloses : c.Encloses body) :
    Pragma.commentBody c = body := by
  cases encloses with
  | line => rfl
  | block =>
    have ends : ['*', '/'].isSuffixOf (body ++ ['*', '/']) = true := by simp
    simp [Pragma.commentBody, ends]

theorem Place.map_token_ofLeaves (before inside after : List Leaf) :
    (Place.ofLeaves before inside after).map Place.token = inside.filterMap Leaf.token? := by
  induction inside generalizing before with
  | nil => rfl
  | cons leaf inside ih =>
    cases leaf with
    | token t => rw [ofLeaves, List.map_cons, ih]; rfl
    | hole => rw [ofLeaves, ih]; rfl

/-- The comments of a stream do not depend on what its words are taken for. -/
theorem TokenStream.filter_isComment_congr {ts us : List Token}
    (same : ts.map Token.plain = us.map Token.plain) :
    ts.filter Token.isComment = us.filter Token.isComment := by
  have kept (ts : List Token) :
      (ts.map Token.plain).filter Token.isComment = ts.filter Token.isComment := by
    have plain : Token.isComment ∘ Token.plain = Token.isComment := funext Token.isComment_plain
    rw [List.filter_map, plain]
    exact map_plain_of_trivia fun c mem => Token.isTrivia_of_isComment (List.mem_filter.1 mem).2
  rw [← kept ts, same, kept us]

theorem Lexeme.exists_of_mem_tokensFrom {start : Nat} {ls : List Lexeme} {t : Token}
    (mem : t ∈ tokensFrom start ls) : ∃ l ∈ ls, t = ⟨l.kind, l.text, t.start⟩ := by
  induction ls generalizing start with
  | nil => cases mem
  | cons l ls ih =>
    rcases List.mem_cons.1 mem with rfl | later
    · exact ⟨l, List.mem_cons_self, rfl⟩
    · obtain ⟨other, among, same⟩ := ih later
      exact ⟨other, List.mem_cons_of_mem l among, same⟩

section
variable {text : Text} (clean : (parse text).errors = [])
include clean

/-- The comments of a source are those of its stream. -/
theorem comments_ofText :
    (Source.ofText text).comments = (TokenStream.ofText text).filter Token.isComment := by
  have tokens : (Source.ofText text).leaves.filterMap Leaf.token? =
      TokenStream.ofTree (parse text).tree := by
    rw [← (isIn_of_places clean).1, Source.places, Place.map_token_ofLeaves]
  rw [Source.comments, tokens]
  exact TokenStream.filter_isComment_congr (TokenStream.map_plain_ofTree text)

theorem exists_encloses {c : Token} (mem : c ∈ (TokenStream.ofText text).filter Token.isComment) :
    ∃ body, c.Encloses body := by
  obtain ⟨among, comment⟩ := List.mem_filter.1 mem
  obtain ⟨l, lexed, same⟩ := Lexeme.exists_of_mem_tokensFrom among
  obtain ⟨behind, stands⟩ := Lexeme.stands_of_mem (standing_lex (errors_parse.1 clean).1) lexed
  rw [same] at comment ⊢
  exact stands.encloses comment _

end

namespace Pragma

/-- Whether a comment has no annotation. -/
def Unannotated (c : Token) : Prop := ∀ body, c.Encloses body → ∀ name, ¬ Annotates body name

/-- Whether a name is the pragma by comments in their order and by settings. -/
inductive Resolves (comments : List Token) (settings : Json) : Text → Prop where
  | annotated {before after : List Token} {c : Token} {body name : Text}
      (parts : comments = before ++ c :: after) (first : ∀ d ∈ before, Unannotated d)
      (inside : c.Encloses body) (annotates : Annotates body name) : Resolves comments settings name
  | set {name : String} (none : ∀ d ∈ comments, Unannotated d)
      (given : settings.at? ["react", "pragma"] = some (.str name)) (filled : name ≠ "") :
      Resolves comments settings name.toList
  | standard (none : ∀ d ∈ comments, Unannotated d)
      (unset : ∀ name, settings.at? ["react", "pragma"] = some (.str name) → name = "") :
      Resolves comments settings "React".toList

section
variable {comments : List Token} {settings : Json} {name : Text}

theorem setting?_eq_some_iff : setting? settings = some name ↔
    ∃ given, settings.at? ["react", "pragma"] = some (.str given) ∧ given ≠ "" ∧
      given.toList = name := by
  unfold setting?
  rw [Option.filter_eq_some_iff]
  simp only [Option.map_eq_some_iff, Option.bind_eq_some_iff]
  constructor
  · rintro ⟨⟨given, ⟨value, there, text⟩, rfl⟩, filled⟩
    cases value with
    | str s =>
      obtain rfl : s = given := Option.some.inj text
      exact ⟨s, there, by simpa using filled, rfl⟩
    | _ => cases text
  · rintro ⟨given, there, filled, rfl⟩
    exact ⟨⟨given, ⟨_, there, rfl⟩, rfl⟩, by simpa using filled⟩

theorem setting?_eq_none_iff : setting? settings = none ↔
    ∀ given, settings.at? ["react", "pragma"] = some (.str given) → given = "" := by
  rw [Option.eq_none_iff_forall_ne_some]
  constructor
  · intro none given there
    by_contra filled
    exact none _ (setting?_eq_some_iff.2 ⟨given, there, filled, rfl⟩)
  · intro unset name found
    obtain ⟨given, there, filled, -⟩ := setting?_eq_some_iff.1 found
    exact filled (unset given there)

theorem unannotated_iff {c : Token} (encloses : ∃ body, c.Encloses body) :
    annotation? (commentBody c) = none ↔ Unannotated c := by
  obtain ⟨body, inside⟩ := encloses
  rw [commentBody_of_encloses inside, annotation?_eq_none_iff]
  constructor
  · intro none other encloses
    obtain rfl := (commentBody_of_encloses inside).symm.trans (commentBody_of_encloses encloses)
    exact none
  · exact fun none => none body inside

/-- The pragma by comments and settings is the name that is found. -/
theorem resolves_iff (enclose : ∀ c ∈ comments, ∃ body, c.Encloses body) :
    Resolves comments settings name ↔
      ((comments.findSome? fun c => annotation? (commentBody c)).or (setting? settings)).getD
        defaultName.toList = name := by
  have unannotated : (∀ d ∈ comments, Unannotated d) ↔
      (comments.findSome? fun c => annotation? (commentBody c)) = none := by
    rw [List.findSome?_eq_none_iff]
    exact forall₂_congr fun c mem => (unannotated_iff (enclose c mem)).symm
  constructor
  · intro resolves
    cases resolves with
    | @annotated before after c body name parts first inside annotates =>
      have found : (comments.findSome? fun c => annotation? (commentBody c)) = some name := by
        refine List.findSome?_eq_some_iff.2 ⟨before, c, after, parts, ?_, fun d mem => ?_⟩
        · rw [commentBody_of_encloses inside, annotation?_eq_some_iff.2 annotates]
        · exact (unannotated_iff (enclose d (parts ▸ List.mem_append_left _ mem))).2 (first d mem)
      rw [found]
      rfl
    | set none given filled =>
      rw [unannotated.1 none, setting?_eq_some_iff.2 ⟨_, given, filled, rfl⟩]
      rfl
    | standard none unset =>
      rw [unannotated.1 none, setting?_eq_none_iff.2 unset]
      rfl
  · rintro rfl
    cases found : comments.findSome? fun c => annotation? (commentBody c) with
    | some name =>
      obtain ⟨before, c, after, parts, annotated, first⟩ := List.findSome?_eq_some_iff.1 found
      obtain ⟨body, inside⟩ := enclose c (parts ▸ List.mem_append_right _ List.mem_cons_self)
      rw [commentBody_of_encloses inside, annotation?_eq_some_iff] at annotated
      refine .annotated parts (fun d mem => ?_) inside annotated
      exact (unannotated_iff (enclose d (parts ▸ List.mem_append_left _ mem))).1 (first d mem)
    | none =>
      have none := unannotated.2 found
      cases set : setting? settings with
      | some name =>
        obtain ⟨given, there, filled, rfl⟩ := setting?_eq_some_iff.1 set
        exact .set none there filled
      | none => exact .standard none (setting?_eq_none_iff.1 set)

end

/-- Whether a text is an identifier: letters, digits, `_` and `$` of ASCII that start with no digit. -/
structure IsName (name : Text) : Prop where
  filled : name ≠ []
  word : ∀ c ∈ name, 'a' ≤ c ∧ c ≤ 'z' ∨ 'A' ≤ c ∧ c ≤ 'Z' ∨ '0' ≤ c ∧ c ≤ '9' ∨ c = '_' ∨ c = '$'
  start : ∀ c ∈ name.head?, ¬ ('0' ≤ c ∧ c ≤ '9')

theorem isDigit_iff {c : Char} : c.isDigit = true ↔ '0' ≤ c ∧ c ≤ '9' :=
  (Bool.and_eq_true_iff).trans (and_congr decide_eq_true_iff decide_eq_true_iff)

theorem isLower_iff {c : Char} : c.isLower = true ↔ 'a' ≤ c ∧ c ≤ 'z' :=
  (Bool.and_eq_true_iff).trans (and_congr decide_eq_true_iff decide_eq_true_iff)

theorem isUpper_iff {c : Char} : c.isUpper = true ↔ 'A' ≤ c ∧ c ≤ 'Z' := decide_eq_true_iff

theorem isWordStart_iff {c : Char} : isWordStart c = true ↔
    'a' ≤ c ∧ c ≤ 'z' ∨ 'A' ≤ c ∧ c ≤ 'Z' ∨ c = '_' ∨ c = '$' := by
  have letter : c.isAlpha = (c.isUpper || c.isLower) := rfl
  rw [isWordStart, letter]
  simp only [Bool.or_eq_true, isLower_iff, isUpper_iff, beq_iff_eq]
  rw [or_comm (a := _ ∧ _), or_assoc, or_assoc]

theorem isWordStart_or_isDigit_iff {c : Char} : isWordStart c = true ∨ c.isDigit = true ↔
    'a' ≤ c ∧ c ≤ 'z' ∨ 'A' ≤ c ∧ c ≤ 'Z' ∨ '0' ≤ c ∧ c ≤ '9' ∨ c = '_' ∨ c = '$' := by
  rw [isWordStart_iff, isDigit_iff, or_assoc, or_assoc, or_comm (b := '0' ≤ c ∧ c ≤ '9')]

theorem not_digit_of_isWordStart {c : Char} (starts : isWordStart c = true) :
    ¬ ('0' ≤ c ∧ c ≤ '9') := by
  have apart {a : Char} (le : a ≤ c) (more : '9' < a) : ¬ ('0' ≤ c ∧ c ≤ '9') :=
    fun digit => Char.not_lt.2 (Char.le_trans le digit.2) more
  rcases isWordStart_iff.1 starts with lower | upper | rfl | rfl
  · exact apart lower.1 (by decide)
  · exact apart upper.1 (by decide)
  · decide
  · decide

theorem isIdentifier_iff {name : Text} : isIdentifier name = true ↔ IsName name := by
  cases name with
  | nil => exact iff_of_false (by simp [isIdentifier]) fun isName => isName.filled rfl
  | cons c cs =>
    simp only [isIdentifier, Bool.and_eq_true, List.all_eq_true, Bool.or_eq_true,
      isWordStart_or_isDigit_iff]
    constructor
    · rintro ⟨first, rest⟩
      refine ⟨List.cons_ne_nil c cs, List.forall_mem_cons.2 ⟨?_, rest⟩, ?_⟩
      · exact isWordStart_or_isDigit_iff.1 (.inl first)
      · rintro d ⟨⟩
        exact not_digit_of_isWordStart first
    · rintro ⟨-, word, start⟩
      obtain ⟨first, rest⟩ := List.forall_mem_cons.1 word
      refine ⟨?_, rest⟩
      rw [← isWordStart_or_isDigit_iff, isDigit_iff] at first
      exact first.resolve_right (start c rfl)

end Pragma

end ScriptLint
