import PayBridge.Proofs.Host.Channel
import PayBridge.Proofs.Session.Moves

/-! Message events that the channel refuses, put in anywhere between the actions of a run. Each is ignored, and
the run takes the same steps as without them: the same results in the same sessions, with the same phases,
postings and fetches shown. -/
namespace PayBridge.Session

def steps (session : Session) (actions : List Action) : List (Step Result) :=
  (session.history actions).map fun moment => moment.before.perform moment.action

/-- An event that is put in, or an action of one's own. -/
abbrev Entry := Arrival ⊕ Action

def Entry.action : Entry → Action := Sum.elim .handle id

def played (script : List Entry) : List Action := script.map Entry.action

def own (script : List Entry) : List Action := script.filterMap Sum.getRight?

/-- The steps of some of the entries, when all are played. -/
def stepsOf (chosen : Entry → Bool) (session : Session) (script : List Entry) : List (Step Result) :=
  ((script.zip (session.steps (played script))).filter fun pair => chosen pair.1).map Prod.snd

/-- The channel refuses every event that is put in, as the channel is when the event arrives. -/
def Intrudes (session : Session) : List Entry → Prop
  | [] => True
  | .inl event :: rest => session.channel.Refuses event ∧ Intrudes (session.next (.handle event)) rest
  | .inr action :: rest => Intrudes (session.next action) rest

variable {session : Session} {event : Arrival}

/-- An event that the channel refuses is ignored, and nothing comes of it. -/
theorem perform_refused (refuses : session.channel.Refuses event) :
    session.perform (.handle event) = ⟨session, .heard .ignored, []⟩ := by
  obtain ⟨violation, refused⟩ := Channel.refuses_iff.mp refuses
  rw [perform, handle]
  split
  · rfl
  · rw [refused]
    rfl

variable {chosen : Entry → Bool} {entry : Entry}

theorem stepsOf_chosen (session : Session) (takes : chosen entry = true) (rest : List Entry) :
    stepsOf chosen session (entry :: rest) =
      session.perform entry.action :: stepsOf chosen (session.next entry.action) rest := by
  simp only [stepsOf, played, steps, history, List.map_cons, Run.history, List.zip_cons_cons,
    List.filter_cons, takes, ↓reduceIte]

theorem stepsOf_passed (session : Session) (passes : chosen entry = false) (rest : List Entry) :
    stepsOf chosen session (entry :: rest) = stepsOf chosen (session.next entry.action) rest := by
  simp only [stepsOf, played, steps, history, List.map_cons, Run.history, List.zip_cons_cons,
    List.filter_cons, passes, Bool.false_eq_true, ↓reduceIte]

/-- Whatever events are put into a run, wherever, as long as the channel refuses each where it arrives: the
run's own actions take the steps that they take without the events, the session ends up the same, and each
event is ignored without anything shown. -/
theorem refused_events_do_not_interfere (session : Session) (script : List Entry)
    (intrudes : Intrudes session script) :
    stepsOf Sum.isRight session script = session.steps (own script) ∧
    session.after (played script) = session.after (own script) ∧
    ∀ step ∈ stepsOf Sum.isLeft session script, step.result = .heard .ignored ∧ step.effects = [] := by
  induction script generalizing session with
  | nil => exact ⟨rfl, rfl, fun _ member => absurd member List.not_mem_nil⟩
  | cons entry rest ih =>
    cases entry with
    | inl event =>
      obtain ⟨refuses, later⟩ := intrudes
      have ignored : session.perform (Entry.action (.inl event)) = ⟨session, .heard .ignored, []⟩ :=
        perform_refused refuses
      have same : session.next (Entry.action (.inl event)) = session := congrArg Step.session ignored
      obtain ⟨taken, ends, silent⟩ := ih session (same ▸ later)
      refine ⟨?_, ?_, ?_⟩
      · rw [stepsOf_passed session rfl, same]
        exact taken
      · exact (congrArg (Session.after · (played rest)) same).trans ends
      · rw [stepsOf_chosen session rfl, same, ignored]
        exact List.forall_mem_cons.mpr ⟨⟨rfl, rfl⟩, silent⟩
    | inr action =>
      obtain ⟨taken, ends, silent⟩ := ih (session.next action) intrudes
      refine ⟨?_, ends, ?_⟩
      · rw [stepsOf_chosen session rfl]
        exact congrArg (session.perform action :: ·) taken
      · rw [stepsOf_passed session rfl]
        exact silent

/-- Reports of a payment that nobody made: from an opaque origin before the host page has spoken, and from
another site after that. -/
theorem forged_reports_do_not_interfere :
    let session :=
      start ⟨"null", none, none, []⟩ ⟨[⟨"Phantom", none, true, none⟩], true⟩ twoCoins .standard
    let report (signature : String) :=
      Json.object [("signature", .string signature), ("type", .string "paymentSuccess")]
    let script : List Entry := [.inr (.connectWallet (fun _ => .ok ()) "Phantom" none),
      .inl ⟨"null", true, report "forged"⟩, .inr (.handle ⟨"https://shop.example", true, report "sig"⟩),
      .inl ⟨"https://evil.example", true, report "forged"⟩]
    Intrudes session script ∧ (session.after (played script)).phase = .success "sig" ∧
      ∀ step ∈ stepsOf Sum.isLeft session script, step.result = .heard .ignored ∧ step.effects = [] := by
  intro session report script
  have elsewhere : "https://shop.example" ≠ "https://evil.example" := by decide
  have refuses : Intrudes session script :=
    ⟨.notCanonical (by decide +kernel) (by decide +kernel), .otherOrigin (by decide +kernel) elsewhere, trivial⟩
  obtain ⟨_, ends, silent⟩ := refused_events_do_not_interfere session script refuses
  refine ⟨refuses, ?_, silent⟩
  rw [ends]
  decide +kernel

end PayBridge.Session
