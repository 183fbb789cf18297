import PayBridge.Proofs.Host.Channel

/-! Origins that the settings pin. A web origin that is pinned is trusted from the mounting of the frame on, and no
other origin ever is. The opaque origin cannot be pinned: a setting that names it leaves the channel as if it
named none, and so an inline frame goes on to trust whoever speaks first. -/
namespace PayBridge.Channel

/-- The call hands the posting to the port, taken or refused: it would be posted if the port took everything. -/
def Hands (moment : Moment Channel Call) (posting : Posting) : Prop :=
  ∃ port message, moment.action = .send port message ∧
    moment.before.send (fun _ => .ok ()) message = .ok posting

/-- From some state on and through all calls, the channel trusts this origin, hears no event of another, and
hands no message for another to its port. -/
structure KeepsTo (web : String) (start : Channel) (calls : List Call) : Prop where
  trusts : (Run.after next start calls).locked = some web
  trusted : ∀ moment ∈ Run.history next start calls, moment.before.locked = some web
  hears : ∀ moment ∈ Run.history next start calls, ∀ event, Accepts moment event → event.origin = web
  writes : ∀ moment ∈ Run.history next start calls, ∀ posting, Hands moment posting → posting.target = web

variable {channel : Channel} {moment : Moment Channel Call} {posting : Posting} {web : String}

theorem Hands.target (hands : Hands moment posting) : moment.before.target? = some posting.target := by
  obtain ⟨port, message, _, sent⟩ := hands
  unfold send at sent
  by_cases outward : message.direction = .childToParent
  · cases trusted : moment.before.target? with
    | none =>
      simp only [outward, ne_eq, not_true_eq_false, ↓reduceIte, trusted] at sent
      cases sent
    | some target =>
      simp only [outward, ne_eq, not_true_eq_false, ↓reduceIte, trusted] at sent
      cases sent
      rfl
  · simp only [ne_eq, outward, not_false_eq_true, ↓reduceIte] at sent
    cases sent

theorem keepsTo_locked (locked : channel.locked = some web) (calls : List Call) : KeepsTo web channel calls := by
  have trusted : ∀ moment ∈ Run.history next channel calls, moment.before.locked = some web := by
    intro moment member
    obtain ⟨earlier, _, _, before, _⟩ := Run.of_mem_history member
    rw [before]
    exact after_locked locked earlier
  refine ⟨after_locked locked calls, trusted, ?_, ?_⟩
  · intro moment member event accepts
    have afterwards := next_locked (trusted moment member) moment.action
    exact Option.some.inj (accepts.trusted.2.symm.trans afterwards)
  · intro moment member posting hands
    rcases target?_cases hands.target with same | ⟨free, _⟩
    · exact Option.some.inj (same.symm.trans (trusted moment member))
    · cases (trusted moment member).symm.trans free

theorem ofFrame_pinned {settings : Settings} (pinned : settings.expectedOrigin = some (.tuple web)) (frame : Frame) :
    (ofFrame frame settings).locked = some web := by
  have found : settings.pinned? = some web := by rw [Settings.pinned?, pinned]
  rw [ofFrame, found, Option.some_or]

theorem ofFrame_opaque {settings : Settings} (pinned : settings.expectedOrigin = some .opaqueOrigin) (frame : Frame) :
    ofFrame frame settings = ofFrame frame { settings with expectedOrigin := none } := by
  have unpinned : settings.pinned? = none := by rw [Settings.pinned?, pinned]
  rw [ofFrame, unpinned]
  rfl

/-- Settings name an origin, as read from a text. If it is a web origin, then in any frame and whatever arrives or
is sent, the channel keeps to it, and so never writes to every origin. If it is the opaque origin, the channel
is the one that settings without an origin make: an inline frame may take its origin from the first message. -/
theorem pinning_keeps_to_web_origins (frame : Frame) (settings : Settings) (text : String) (origin : Origin)
    (read : Origin.parse text = .ok origin) (pinned : settings.expectedOrigin = some origin) (calls : List Call) :
    match origin with
    | .tuple web => web ≠ anyOrigin ∧ web ≠ Origin.opaqueText ∧ KeepsTo web (ofFrame frame settings) calls
    | .opaqueOrigin => ofFrame frame settings = ofFrame frame { settings with expectedOrigin := none } ∧
        (ofFrame frame settings).mayInfer = frame.isInline := by
  cases origin with
  | tuple web =>
    have isWeb : Origin.IsWebText web := by
      unfold Origin.parse at read
      split at read
      · rename_i origin parsed
        cases read
        exact Origin.parse?_web parsed
      · cases read
    exact ⟨isWeb.ne_any, isWeb.ne_opaque, keepsTo_locked (ofFrame_pinned pinned frame) calls⟩
  | opaqueOrigin =>
    have same := ofFrame_opaque pinned frame
    refine ⟨same, ?_⟩
    rw [same]
    exact Bool.and_true frame.isInline

/-- A pinned web origin in an inline frame whose referrer is another one, which then speaks. -/
theorem pinned_shop_is_kept :
    let settings : Settings := ⟨some (.tuple "https://shop.example"), false⟩
    let frame : Frame := ⟨"null", some "https://elsewhere.example/", none, []⟩
    let event : Arrival := ⟨"https://elsewhere.example", true,
      .object [("signature", .string "sig"), ("type", .string "paymentSuccess")]⟩
    Origin.parse "https://shop.example/cart" = .ok (.tuple "https://shop.example") ∧
      KeepsTo "https://shop.example" (ofFrame frame settings) [.accept event] := by
  intro settings frame event
  have named : Origin.parse? "https://shop.example/cart" = some (.tuple "https://shop.example") := by
    decide +kernel
  have read : Origin.parse "https://shop.example/cart" = .ok (.tuple "https://shop.example") := by
    rw [Origin.parse, named]
  exact ⟨read, (pinning_keeps_to_web_origins frame settings _ _ read rfl [.accept event]).2.2⟩

/-- Settings that name the opaque origin, in an inline frame that knows of no origin: the first message goes to
every origin, and the first to speak is trusted. -/
theorem opaque_pin_trusts_the_first_to_speak :
    let settings : Settings := ⟨some .opaqueOrigin, false⟩
    let channel := ofFrame ⟨"null", none, none, []⟩ settings
    let ask := Call.send (fun _ => .ok ())
      (.walletConnect ⟨"Phantom", ⟨false, 1, 0, by decide, by decide⟩, "SOL", none⟩)
    let event : Arrival := ⟨"https://evil.example", true,
      .object [("signature", .string "sig"), ("type", .string "paymentSuccess")]⟩
    Settings.decode (.object [("expectedOrigin", .string "null")]) = .ok settings ∧
    (∃ posting, Hands ⟨channel, ask⟩ posting ∧ posting.target = anyOrigin) ∧
    Accepts ⟨channel, .accept event⟩ event ∧
    (channel.next (.accept event)).locked = some "https://evil.example" := by
  intro settings channel ask event
  have handed : Hands ⟨channel, ask⟩ ⟨_, anyOrigin⟩ := ⟨_, _, rfl, rfl⟩
  have canonical : Origin.parse? event.origin = some (.tuple event.origin) := by decide +kernel
  have free : channel.locked = none := by decide +kernel
  have infers : channel.mayInfer = true := by decide +kernel
  have trusts : channel.trust event.origin = .ok { channel with locked := some event.origin } :=
    trust_iff.mpr (.inr ⟨free, infers, canonical, rfl⟩)
  have accepted : Accepts ⟨channel, .accept event⟩ event :=
    ⟨rfl, _, _, accept_iff.mpr ⟨rfl, trusts, rfl, rfl⟩⟩
  exact ⟨rfl, ⟨_, handed, rfl⟩, accepted, accepted.trusted.2⟩

end PayBridge.Channel
