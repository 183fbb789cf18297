import PayBridge.Proofs.Session.Moves

/-! Letting time pass is a run of its own: the polling loop fires some number of times, and then the clock
is set. What holds after every run of single steps also holds where time passes in one go. -/
namespace PayBridge.Session

theorem phaseAfter_append (phase : Phase) (first rest : List SessionEffect) :
    phaseAfter phase (first ++ rest) = phaseAfter (phaseAfter phase first) rest :=
  List.foldl_append

def shown (session : Session) (actions : List Action) : List SessionEffect :=
  (session.history actions).flatMap fun moment => (moment.before.perform moment.action).effects

theorem shown_append (session : Session) (first rest : List Action) :
    session.shown (first ++ rest) = session.shown first ++ (session.after first).shown rest := by
  simp only [shown, history_append, List.flatMap_append]

theorem after_fires (source : Source) (n : Nat) (session : Session) :
    session.after (List.replicate n (.fire source)) = { session with
      poller := (session.poller.fires source n).1
      phase := phaseAfter session.phase ((session.poller.fires source n).2.filterMap effectOf?) } ∧
    session.shown (List.replicate n (.fire source)) =
      (session.poller.fires source n).2.filterMap effectOf? := by
  induction n generalizing session with
  | zero => exact ⟨rfl, rfl⟩
  | succ n ih =>
    obtain ⟨rest, told⟩ := ih (session.next (.fire source))
    simp only [Poller.fires, List.filterMap_append, phaseAfter_append]
    exact ⟨rest, congrArg (_ ++ ·) told⟩

/-- Time that passes is a run of single steps, which ends in the same session and shows the same. -/
theorem advance_eq_run (session : Session) (source : Source) (duration : Nat) :
    ∃ n, (session.advance source duration).session =
        session.after (List.replicate n (.fire source) ++ [.wait duration]) ∧
      (session.advance source duration).effects =
        session.shown (List.replicate n (.fire source) ++ [.wait duration]) := by
  obtain ⟨n, advanced⟩ := session.poller.advance_fires source duration
  obtain ⟨fired, told⟩ := session.after_fires source n
  refine ⟨n, ?_, ?_⟩
  · rw [advance, advanced, after_append, fired]
    rfl
  · rw [advance, advanced, shown_append, told]
    exact (List.append_nil _).symm

end PayBridge.Session
