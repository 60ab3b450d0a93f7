import NotionProject.Proofs.Confinement

/-!
# One match or every match

A search for the only match and a search for every match are the same search up to its end:
both make something of the matches among the children, and ask for nothing more
(`Call.run_bind_ofExcept`). `findOnly_of_findAll` compares what they come to. One match is the
same in both, several are a failure of the one and a result of the other, and any other failure
is the failure of both. That there are several is never the failure of an exchange
(`Failure.IsOfExchange.ne_duplicate`), so the one search fails so for that reason only.
-/

namespace NotionProject

variable {α β : Type}

theorem Failure.IsOfExchange.ne_duplicate {failure : Failure} (h : failure.IsOfExchange)
    (kind : Kind) (title : String) : failure ≠ .duplicate kind title := by
  rintro rfl
  exact h

/-- What is made of a result without the server leaves the run as it is. -/
theorem Call.run_bind_ofExcept (call : Call α) (final : α → Except Failure β) (server : Server) :
    (call >>= fun value => ofExcept (final value)).run server =
      ⟨(call.run server).outcome.bind final, (call.run server).events,
        (call.run server).server⟩ := by
  cases ho : (call.run server).outcome with
  | error failure =>
    rw [run_bind_of_error ho]
    rfl
  | ok value =>
    rw [run_bind_of_ok ho]
    cases hf : final value <;> simp [ofExcept, result, fail, Except.bind, hf]

namespace Project

section Matches

variable {kind : Kind} {title : String} {found : List Identifier}

/-- An identifier is the only match if it is every match. -/
theorem onlyMatch_eq_ok_iff {id : Identifier} :
    onlyMatch kind title found = .ok id ↔ everyMatch kind title found = .ok [id] := by
  match found with
  | [] => simp [onlyMatch, everyMatch]
  | [_] => simp [onlyMatch, everyMatch]
  | _ :: _ :: _ => simp [onlyMatch, everyMatch]

/-- There are several matches if every match is more than one. -/
theorem onlyMatch_eq_duplicate_iff {k : Kind} {t : String} :
    onlyMatch kind title found = .error (.duplicate k t) ↔
      (k = kind ∧ t = title) ∧
        ∃ ids, everyMatch kind title found = .ok ids ∧ 2 ≤ ids.length := by
  match found with
  | [] => simp [onlyMatch, everyMatch]
  | [_] => simp [onlyMatch, everyMatch]
  | _ :: _ :: _ => simp [onlyMatch, everyMatch, eq_comm]

/-- Any other failure is a failure for want of a match. -/
theorem everyMatch_eq_error_iff {failure : Failure} :
    everyMatch kind title found = .error failure ↔
      onlyMatch kind title found = .error failure ∧ ∀ k t, failure ≠ .duplicate k t := by
  match found with
  | [] =>
    simp only [everyMatch, onlyMatch, Except.error.injEq, iff_self_and]
    rintro rfl
    simp
  | [_] => simp [onlyMatch, everyMatch]
  | _ :: _ :: _ =>
    simp only [everyMatch, onlyMatch, reduceCtorEq, Except.error.injEq, false_iff, not_and]
    rintro rfl h
    exact h kind title rfl

end Matches

/-- The two searches against one server make the same requests and leave the same server. One
identifier is found by the one exactly if the other finds it alone; the one fails for there being
several exactly if the other finds several, be they equal; that nothing is found is reported by
both or by neither; and any other failure of the one is the failure of the other. -/
theorem findOnly_of_findAll (project : Project) (kind : Kind) (parent : Identifier)
    (title : String) (server : Server) :
    let only := (project.findOnly kind parent title).run server
    let every := (project.findAll kind parent title).run server
    only.requests = every.requests ∧ only.server = every.server ∧
      (∀ id, only.outcome = .ok id ↔ every.outcome = .ok [id]) ∧
      (∀ k t, only.outcome = .error (.duplicate k t) ↔
        (k = kind ∧ t = title) ∧ ∃ ids, every.outcome = .ok ids ∧ 2 ≤ ids.length) ∧
      (∀ k t, only.outcome = .error (.notFound k t) ↔ every.outcome = .error (.notFound k t)) ∧
      ∀ failure, every.outcome = .error failure ↔
        only.outcome = .error failure ∧ ∀ k t, failure ≠ .duplicate k t := by
  intro only every
  have honly : only = _ := Call.run_bind_ofExcept _ (onlyMatch kind title) server
  have hevery : every = _ := Call.run_bind_ofExcept _ (everyMatch kind title) server
  rw [honly, hevery]
  refine ⟨rfl, rfl, ?_⟩
  cases ho : ((project.matchingChildren kind parent title).run server).outcome with
  | ok found =>
    have hfailure : ∀ failure, everyMatch kind title found = .error failure ↔
        onlyMatch kind title found = .error failure ∧ ∀ k t, failure ≠ .duplicate k t :=
      fun _ => everyMatch_eq_error_iff
    refine ⟨fun id => onlyMatch_eq_ok_iff, fun k t => onlyMatch_eq_duplicate_iff,
      fun k t => ?_, hfailure⟩
    exact (hfailure (.notFound k t)).trans (and_iff_left fun _ _ => Failure.noConfusion) |>.symm
  | error failure =>
    -- the search itself failed, and with that both did
    have hne := (isOfExchange_of_matchingChildren ho).ne_duplicate
    simp only [Except.bind, Except.error.injEq, reduceCtorEq, hne, false_and, exists_false,
      and_false, forall_const, implies_true, true_and, iff_self_and]
    rintro _ rfl
    exact hne

end Project

end NotionProject
