import ScriptLint.Proofs.Linter.Verifying
import ScriptLint.Proofs.Splice.Inert

/-!
# Passes that make no progress

Whether another pass follows is told by the number of edits that were accepted; no text is compared
with an earlier one. A pass that goes on keeps its text if its edits, merged into one, put in what they
take out (`Does.reworks`), and then every pass that is left finds and makes the same edits again
(`Leads.output_of_edited_eq`). So the texts of a run are pairwise different if a pass stops it
(`Leads.nodup`): a run that comes back to a text has no pass that stops it.
-/

namespace ScriptLint

/-- A step is repeated as long as a condition holds. If the repetition ends, all values were different:
from a value that comes back, the same values would follow for ever. -/
theorem nodup_iterate {α : Type} {f : α → α} {goesOn : α → Bool} {x : α} {n : Nat}
    (goes : ∀ i < n, goesOn (f^[i] x) = true) (stops : goesOn (f^[n] x) = false) :
    (List.iterate f x (n + 1)).Nodup := by
  apply List.pairwise_iff_getElem.2
  intro i j boundI boundJ lt same
  rw [List.length_iterate] at boundI boundJ
  rw [List.getElem_iterate, List.getElem_iterate] at same
  obtain ⟨more, rfl⟩ : ∃ more, n = more + j := ⟨n - j, by omega⟩
  have back : f^[more + j] x = f^[more + i] x := by
    rw [Function.iterate_add_apply, ← same, ← Function.iterate_add_apply]
  rw [back, goes (more + i) (by omega)] at stops
  cases stops

namespace Linter

variable {l : Linter} {rules : List ConfiguredRule} {o last : Outcome} {earlier : List Text}
  {text : Text}

/-- The edits that a pass makes in the text of an outcome. -/
def made (l : Linter) (rules : List ConfiguredRule) (o : Outcome) : List Edit :=
  Splice.made o.output (l.found rules o).diagnostics

/-- A pass that goes on reworks its text with the edits that its diagnostics report as made. -/
theorem Does.reworks {after : Outcome} (does : Does l rules o (.next after)) :
    Splice.Reworks o.output after.output after.diagnostics (l.made rules o) := by
  cases does with
  | edited parses works some => exact Splice.reworks_made found_fresh some

namespace Leads

theorem goesOn (leads : Leads l rules earlier o last) :
    ∀ text ∈ earlier, l.goesOn rules text = true := by
  induction leads with
  | refl o => simp
  | next does behind ih =>
    intro text mem
    rcases List.mem_cons.1 mem with rfl | later
    · exact does.goesOn.1
    · exact ih text later

/-- A text that its edits leave as it is stays through all passes. -/
theorem output_of_edited_eq (leads : Leads l rules earlier o last)
    (same : l.edited rules o.output = o.output) : last.output = o.output := by
  induction leads with
  | refl o => rfl
  | next does behind ih =>
    have output := does.output_next.trans same
    rw [ih (output ▸ same), output]

theorem output_of_mem (leads : Leads l rules earlier o last) (mem : text ∈ earlier)
    (same : l.edited rules text = text) : last.output = text := by
  induction leads with
  | refl o => cases mem
  | next does behind ih =>
    rcases List.mem_cons.1 mem with rfl | later
    · exact (Leads.next does behind).output_of_edited_eq same
    · exact ih later

/-- The texts of passes that go on and of one that stops are pairwise different. -/
theorem nodup {why : Stop} {o' : Outcome} (leads : Leads l rules earlier o last)
    (stop : Does l rules last (.stop why o')) : (earlier ++ [last.output]).Nodup := by
  have whole := leads.texts_eq_iterate
  -- a text is told by its place, so that it can be asked whether another one follows it
  have value {i : Nat} (bound : i < earlier.length + 1) :
      (earlier ++ [last.output])[i]? = some ((l.edited rules)^[i] o.output) := by
    rw [whole, List.getElem?_iterate _ _ _ _ bound]
  rw [whole]
  apply @nodup_iterate _ _ (l.goesOn rules)
  · intro i bound
    have found := value (Nat.lt_succ_of_lt bound)
    rw [List.getElem?_append_left bound] at found
    exact leads.goesOn _ (List.mem_of_getElem? found)
  · have found := value (Nat.lt_succ_self _)
    rw [List.getElem?_concat_length, Option.some.injEq] at found
    rw [← found]
    exact stop.not_goesOn

end Leads

/-- When a pass makes progress. A pass that accepts edits leaves its text as it is if and only if
the edits that its diagnostics report as made, merged into one, put in what they take out; they do
so if each of them does, and they do not if all but one of them do. A text that its edits leave as it
is stays to the end of the run, which has no pass left then if it accepts edits there. A run that
parses a text twice has no pass left either, so all permitted passes have run. -/
theorem verifyAndFix_progress (l : Linter) (rules : List ConfiguredRule) (input : Text) :
    let o := l.verifyAndFix rules input
    let texts := l.texts rules l.options.maxPasses (.start input)
    (∀ before after, l.pass rules before = .next after →
      Splice.Reworks before.output after.output after.diagnostics (l.made rules before)) ∧
    (∀ text ∈ texts, l.edited rules text = text →
      o.output = text ∧ (l.goesOn rules text = true ↔ l.ending rules input = .exhausted)) ∧
    (¬ texts.Nodup → l.ending rules input = .exhausted ∧ o.passes = l.options.maxPasses) := by
  intro o texts
  have ends : l.run rules l.options.maxPasses (.start input) = (l.ending rules input, o) :=
    Prod.ext rfl (verifyAndFix_eq_run input).symm
  obtain ⟨earlier, before, leads, ending⟩ := run_cases ends
  have reworks (before after : Outcome) (next : l.pass rules before = .next after) :
      Splice.Reworks before.output after.output after.diagnostics (l.made rules before) := by
    have does : Does l rules before (l.pass rules before) := pass_does
    rw [next] at does
    exact does.reworks
  rcases ending with ⟨exhausted, final, parsed⟩ | ⟨stop, parsed⟩
  · -- No pass was left, so another pass followed each of the texts.
    have whole : texts = earlier := parsed
    have bound : l.options.maxPasses = earlier.length := by
      rw [← parsed, length_texts_of_exhausted (exhausted ▸ ends)]
    have count : before.passes = l.options.maxPasses := by
      rw [leads.passes, bound]
      exact Nat.zero_add _
    rw [whole, final]
    refine ⟨reworks, ?_, fun _ => ⟨exhausted, count⟩⟩
    intro text mem same
    exact ⟨leads.output_of_mem mem same, iff_of_true (leads.goesOn text mem) exhausted⟩
  · have whole : texts = earlier ++ [before.output] := parsed
    have output : o.output = before.output := stop.again.1
    rw [whole, output]
    refine ⟨reworks, ?_, fun again => absurd (leads.nodup stop) again⟩
    intro text mem same
    have stays : before.output = text := by
      rcases List.mem_append.1 mem with early | here
      · exact leads.output_of_mem early same
      · exact (List.mem_singleton.1 here).symm
    have stopped : l.goesOn rules text = false := stays ▸ stop.not_goesOn
    exact ⟨stays, by simp [stopped, stop.stops]⟩

/-- A rule that replaces every name by `x`, also one that is `x` already. -/
def echoing : ConfiguredRule where
  rule := ⟨⟨"js/echo", "", .style, some .code, [], [("m", "m")], none⟩, fun _ => .ok <|
    .reporting .identifier fun _ site =>
      [(Report.new site.span "m").withEdit (.replace site.span ['x'])]⟩
  severity := .error
  options := []

/-- What an outcome says when some passes have made that edit of a name. -/
structure Echoed (n : Nat) (o : Outcome) : Prop where
  input : o.input = ['x', ';']
  output : o.output = ['x', ';']
  passes : o.passes = n
  applied : o.applied = n
  statuses : o.allDiagnostics.map Diagnostic.status = List.replicate n .applied

theorem echoed_start : Echoed 0 (.start ['x', ';']) := ⟨rfl, rfl, rfl, rfl, rfl⟩

theorem Echoed.status_eq {n : Nat} (echoed : Echoed n o) :
    ∀ d ∈ o.allDiagnostics, d.status = .applied := by
  intro d mem
  have among := List.mem_map_of_mem (f := Diagnostic.status) mem
  rw [echoed.statuses] at among
  exact List.eq_of_mem_replicate among

section
variable {n : Nat} (bound : Nat)

theorem found_echoing (same : o.output = ['x', ';']) : (new ⟨bound, .null⟩).found [echoing] o =
    Dispatch.runSlots [echoing] .null ⟨['x', ';'], (ScriptLint.parse ['x', ';']).tree⟩ := by
  rw [found_eq_runSlots, same]
  rfl

/-- A pass makes the edit, says so, and leaves the text as it is. -/
theorem Echoed.next (echoed : Echoed n o) :
    ∃ after, Does (new ⟨bound, .null⟩) [echoing] o (.next after) ∧ Echoed (n + 1) after := by
  have parses : ((new ⟨bound, .null⟩).parse o.output).errors = [] := by
    rw [echoed.output]
    exact errors_objecting
  have works : ((new ⟨bound, .null⟩).found [echoing] o).error = none := by
    rw [found_echoing bound echoed.output]
    decide +kernel
  have spliced : (new ⟨bound, .null⟩).spliced [echoing] o =
      Splice.run ['x', ';'] (Dispatch.runSlots [echoing] .null
        ⟨['x', ';'], (ScriptLint.parse ['x', ';']).tree⟩).diagnostics := by
    rw [Linter.spliced, found_echoing bound echoed.output, echoed.output]
  have edits : ((new ⟨bound, .null⟩).spliced [echoing] o).applied = 1 := by
    rw [spliced]
    decide +kernel
  have output : ((new ⟨bound, .null⟩).spliced [echoing] o).output = ['x', ';'] := by
    rw [spliced]
    decide +kernel
  have reported : ((new ⟨bound, .null⟩).spliced [echoing] o).diagnostics.map Diagnostic.status =
      [.applied] := by
    rw [spliced]
    decide +kernel
  have kept : o.diagnostics.filter (fun d => d.status == .applied) = o.diagnostics :=
    List.filter_eq_self.2 fun d mem => by
      simp [echoed.status_eq d (List.mem_append_right _ mem)]
  refine ⟨_, .edited parses works (by simp [edits]), echoed.input, output, ?_, ?_, ?_⟩
  · exact congrArg (· + 1) echoed.passes
  · exact congrArg₂ (· + ·) echoed.applied edits
  · have before := echoed.statuses
    simp only [Outcome.allDiagnostics, recordSpliced, recordSettled, record, kept, reported,
      List.map_append, List.replicate_succ'] at before ⊢
    rw [before]

theorem run_echoing (echoed : Echoed n o) (left : Nat) :
    ∃ last, (new ⟨bound, .null⟩).run [echoing] left o = (.exhausted, last) ∧
      (new ⟨bound, .null⟩).texts [echoing] left o = List.replicate left ['x', ';'] ∧
      Echoed (n + left) last := by
  induction left generalizing o n with
  | zero => exact ⟨o, rfl, rfl, echoed⟩
  | succ left ih =>
    obtain ⟨after, does, next⟩ := echoed.next bound
    obtain ⟨last, runs, texts, behind⟩ := ih next
    refine ⟨last, (run_of_next does).trans runs, ?_, by rwa [Nat.add_right_comm] at behind⟩
    rw [texts_of_next does, texts, echoed.output, List.replicate_succ]

end

/-- The same text is parsed in each of three passes, and each one says that it made its edit. -/
theorem verifyAndFix_echoing_stalls :
    let l := new ⟨3, .null⟩
    let o := l.verifyAndFix [echoing] ['x', ';']
    l.texts [echoing] 3 (.start ['x', ';']) = [['x', ';'], ['x', ';'], ['x', ';']] ∧
      o.passes = 3 ∧ o.applied = 3 ∧ o.output = ['x', ';'] ∧ o.changed = false ∧
      o.allDiagnostics.map Diagnostic.status = [.applied, .applied, .applied] ∧
      o.hasUnfixedErrors = false := by
  intro l o
  obtain ⟨last, runs, texts, echoed⟩ := run_echoing 3 echoed_start 3
  rw [Nat.zero_add] at echoed
  have final : o = last := (verifyAndFix_eq_run _).trans (congrArg Prod.snd runs)
  have unchanged : last.changed = false := by
    simp [Outcome.changed, echoed.input, echoed.output]
  have unfixed : last.hasUnfixedErrors = false := by
    apply List.any_eq_false.2
    intro d mem
    simp [Diagnostic.isUnfixed, echoed.status_eq d (List.mem_append_right _ mem)]
  rw [final]
  exact ⟨texts, echoed.passes, echoed.applied, echoed.output, unchanged, echoed.statuses, unfixed⟩

/-- The edit puts in what it takes out, so the text stays and no pass is left. -/
theorem verifyAndFix_progress_echoing :
    let l := new ⟨3, .null⟩
    let o := l.verifyAndFix [echoing] ['x', ';']
    let texts := l.texts [echoing] 3 (.start ['x', ';'])
    (∃ after, l.pass [echoing] (.start ['x', ';']) = .next after ∧
      Splice.Reworks ['x', ';'] after.output after.diagnostics
        (l.made [echoing] (.start ['x', ';']))) ∧
      (['x', ';'] ∈ texts ∧ l.edited [echoing] ['x', ';'] = ['x', ';'] ∧ o.output = ['x', ';']) ∧
      ¬ texts.Nodup ∧ l.ending [echoing] ['x', ';'] = .exhausted ∧ o.passes = 3 := by
  intro l o texts
  obtain ⟨after, does, echoed⟩ := echoed_start.next 3
  obtain ⟨-, -, parsed, -⟩ := run_echoing 3 echoed_start 3
  have whole : texts = [['x', ';'], ['x', ';'], ['x', ';']] := parsed
  have same : l.edited [echoing] ['x', ';'] = ['x', ';'] := does.output_next.symm.trans echoed.output
  obtain ⟨reworks, stays, again⟩ := verifyAndFix_progress l [echoing] ['x', ';']
  have among : ['x', ';'] ∈ texts := by simp [whole]
  have repeated : ¬ texts.Nodup := by simp [whole]
  exact ⟨⟨after, does.eq, reworks _ after does.eq⟩, ⟨among, same, (stays _ among same).1⟩, repeated,
    again repeated⟩

end Linter

end ScriptLint
