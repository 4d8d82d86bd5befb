import Cubbies.Lib.Decimal
import Cubbies.Proofs.Durability
import Cubbies.Proofs.PowerOff
import Cubbies.Proofs.Registration
import Cubbies.Proofs.VerificationRequest

set_option autoImplicit false

/-! # What a BLE client sees

A client asks for a user to be verified, is told the verdict, and can read the users back. The box works
on the request in other steps, with everything else going on in between. `verdict_per_request` says that
no request is answered twice and no verdict comes without one; `registration_lasts` that the user a yes was
about is the one that is read back from then on, over any number of power cycles. The yes is about the
user that waits in the first slot, if one does, whichever slot the request was for. -/

namespace Cubbies

open CString Runs

/-- A verdict on a user, as a client knows it. -/
def Notification.isVerdict (n : Notification) : Bool := n.payload = str "9" ∨ n.payload = str "10"

namespace Box

section

variable [CJson]

/-- A BLE write that asks for a verification: the first initialisation, or a verified user's command. -/
def asks (b : Box) : BoxEvent → Bool
  | .ble _ .writeInitialize value _ => value.length < 200 ∧ (CJson.parse (text value)).isSome
  | .ble _ .writeCommand value _ => (b.dispatched? value).any fun c => c.msgType = 6
  | _ => false

def sessionAsks (b : Box) : SessionEvent → Bool
  | .step e => b.asks e
  | .power _ _ _ => false

/-! ## One verdict for a request -/

/-- The states between a request and its verdict. -/
def verifyingStates : List SystemState := [.initWifiCheck, .initUserIdCheck]

/-- Whether a request is being worked on. -/
def pending (b : Box) : ℕ := if b.position ∈ verifyingStates then 1 else 0

omit [CJson] in
theorem pending_le_one (b : Box) : b.pending ≤ 1 := by
  unfold pending
  split <;> omega

omit [CJson] in
theorem pending_of_mem {b : Box} (h : b.position ∈ verifyingStates) : b.pending = 1 := if_pos h

omit [CJson] in
theorem pending_of_not_mem {b : Box} (h : b.position ∉ verifyingStates) : b.pending = 0 := if_neg h

omit [CJson] in
/-- If only a box that works on a request does so afterwards, there is no more to do than before. -/
theorem pending_le {b b' : Box} (h : b'.position ∈ verifyingStates → b.position ∈ verifyingStates) :
    b'.pending ≤ b.pending := by
  by_cases hafter : b'.position ∈ verifyingStates
  · rw [pending_of_mem hafter, pending_of_mem (h hafter)]
  · rw [pending_of_not_mem hafter]
    exact Nat.zero_le _

omit [CJson] in
theorem countP_credentialsNotified (w : Wifi) (s : Wifi.CredentialsScript) (new : Credentials) :
    (w.credentialsNotified s new).countP Notification.isVerdict = 0 := by
  unfold Wifi.credentialsNotified
  split <;> rfl

/-- What a write is answered with at once is no verdict. -/
theorem countP_onWriteNotified (b : Box) (uuid : BleUuid) (value : Bytes)
    (s : Wifi.CredentialsScript) :
    (b.onWriteNotified uuid value s).countP Notification.isVerdict = 0 := by
  have hcommand : ∀ msgType json,
      (b.bleCommandNotified msgType json s).countP Notification.isVerdict = 0 := by
    intro msgType json
    unfold bleCommandNotified
    split
    · split
      · exact countP_credentialsNotified _ _ _
      · rfl
    · split
      · split <;> rfl
      · rfl
    · split <;> rfl
    · rfl
  unfold onWriteNotified
  split
  · rfl
  · split
    · rfl
    · split
      · split
        · split
          · exact hcommand _ _
          · rfl
        · rfl
      · rfl
      · rfl

/-- A step of the handler outside the two states starts no verification. -/
theorem handler_verifying {b b' : Box} {env : HandlerEnv} (h : b.handler env = some b')
    (hafter : b'.position ∈ verifyingStates) : b.position ∈ verifyingStates := by
  have hnext : ∀ s t : SystemState, t ∈ nextPositions s → t ∈ verifyingStates → s ∈ verifyingStates := by
    intro s t
    cases s <;> cases t <;> decide
  by_cases hwait : b.state = .waitForPlayer
  · rw [handler_waitForPlayer hwait, Option.some.injEq] at h
    subst h
    rcases (handleWaitForPlayer_keeps env hwait).2 with hsame | ⟨-, hplayNext⟩
    · rwa [hsame] at hafter
    · rw [hplayNext] at hafter
      exact absurd hafter (by decide)
  · rw [position_of_state rfl hwait]
    exact hnext _ _ (handler_position h hwait) hafter

/-- **A step of the handler**: a verdict ends the work on the request. -/
theorem handler_verdicts {b b' : Box} {env : HandlerEnv} (h : b.handler env = some b') :
    (b.notified (.handler env)).countP Notification.isVerdict + b'.pending ≤ b.pending := by
  have hkept := pending_le (handler_verifying h)
  by_cases hcheck : b.state = .initUserIdCheck
  · have hpending : b.pending = 1 := by
      refine pending_of_mem ?_
      rw [position_of_state hcheck (by simp)]
      decide
    simp only [handler, hcheck, Option.some.injEq] at h
    subst h
    have hnotified : b.notified (.handler env) = b.verifyNotified env.verify := by
      simp only [notified, hcheck]
    have houtcome := verifyUserIdWithServer_outcome b env.verify
    have hdone : (b.verifyUserIdWithServer env.verify).1 = true →
        (b.handleInitUserIdCheck env).pending = 0 := by
      intro hfinished
      refine pending_of_not_mem ?_
      unfold handleInitUserIdCheck
      dsimp only
      rw [if_pos hfinished, position_setState (by simp)]
      decide
    rw [hnotified, hpending]
    generalize b.verifyUserIdWithServer env.verify = r at hdone houtcome
    generalize b.verifyNotified env.verify = notes at houtcome ⊢
    generalize b.usersAsked env.verify = users at houtcome
    cases houtcome with
    | silent =>
        rw [List.countP_nil, Nat.zero_add]
        exact pending_le_one _
    | failed => rw [hdone rfl]; rfl
    | success => rw [hdone rfl]; rfl
  · have hquiet : (b.notified (.handler env)).countP Notification.isVerdict = 0 := by
      unfold notified
      dsimp only
      split
      · exact countP_credentialsNotified _ _ _
      · next hstate => exact absurd hstate hcheck
      · rfl
    rw [hquiet, Nat.zero_add]
    exact hkept

/-- A write that starts a verification asks for it. -/
theorem asks_of_starts {b : Box} {now : ℕ} {uuid : BleUuid} {value : Bytes} {s : Wifi.CredentialsScript}
    (h : b.StartsVerification uuid value) : b.asks (.ble now uuid value s) = true := by
  obtain ⟨hshort, json, hparse, hcommand⟩ := h
  cases uuid with
  | writeInitialize => simp [asks, hshort, hparse]
  | writeCommand =>
      obtain ⟨hmsgType, userID, huser, hverified⟩ := hcommand
      have hfound : command? value = some ⟨6, userID, json⟩ := by
        unfold command?
        rw [if_neg (Nat.not_le_of_lt hshort), hparse]
        dsimp only
        rw [hmsgType, huser]
      simp [asks, dispatched?, hfound, hverified]
  | other => exact absurd hcommand id

/-- **One step**: what is answered and what is left to do was left before, or is asked for now. -/
theorem step_verdicts {b b' : Box} {e : BoxEvent} (h : b.step e = some b') :
    (b.notified e).countP Notification.isVerdict + b'.pending ≤ b.pending + (b.asks e).toNat := by
  cases e with
  | handler env => exact handler_verdicts h
  | read now data =>
      obtain rfl := Option.some.inj h
      refine Nat.le_trans (Nat.zero_add _).le (pending_le fun hafter => ?_)
      by_cases hremoves : b.Removes data
      · obtain ⟨commands, heq⟩ := readFrame_removal now hremoves
        rw [heq, position_of_state (s := .idle) rfl (by simp)] at hafter
        exact absurd hafter (by decide)
      · obtain ⟨dl, battery, charging, toy, presense, uid, present, heq⟩ :=
          readFrame_fields now hremoves
        rw [heq] at hafter
        exact hafter
  | write now address len data =>
      obtain rfl := Option.some.inj h
      refine Nat.le_trans (Nat.zero_add _).le (pending_le fun hafter => ?_)
      rcases writeFrame_outcome b now address len data with ⟨-, -, heq⟩ | ⟨-, -, -, heq⟩ |
        ⟨-, hstate, hback, -⟩
      · rw [heq, position_setState (by simp)] at hafter
        exact absurd hafter (by decide)
      · rw [heq, position_setState (by simp)] at hafter
        exact absurd hafter (by decide)
      · unfold position at hafter ⊢
        rwa [hstate, hback] at hafter
  | ble now uuid value s =>
      show (b.onWriteNotified uuid value s).countP Notification.isVerdict + _ ≤ _
      rw [countP_onWriteNotified, Nat.zero_add]
      rcases onWrite_outcome h with ⟨hstarts, -, -, -⟩ | ⟨-, hstate, hback, -⟩
      · rw [asks_of_starts hstarts]
        exact Nat.le_trans (pending_le_one b') (Nat.le_add_left _ _)
      · refine Nat.le_trans (pending_le fun hafter => ?_) (Nat.le_add_right _ _)
        unfold position at hafter ⊢
        rwa [hstate, hback] at hafter
  | pipeline writer =>
      obtain rfl := Option.some.inj h
      exact (Nat.zero_add _).le
  | station e =>
      obtain rfl := Option.some.inj h
      exact (Nat.zero_add _).le

theorem sessionStep_verdicts {b b' : Box} {e : SessionEvent} (h : b.sessionStep e = some b') :
    (b.sessionNotified e).countP Notification.isVerdict + b'.pending ≤
      b.pending + (b.sessionAsks e).toNat := by
  cases e with
  | step e => exact step_verdicts h
  | power battery charging s =>
      obtain rfl := Option.some.inj h
      exact Nat.zero_le _

omit [CJson] in
/-- After power-on there is nothing to verify. -/
theorem pending_appMain (card : Card) (credentialsFile : Option Credentials) (battery charging : UInt8)
    (s : WaitScript) : (appMain card credentialsFile battery charging s).pending = 0 := rfl

/-- **At most one verdict for a request.** In any part of any session, however the steps of the tasks and
the power cycles come, no more verdicts are notified than verifications were asked for in it, and one that
was being worked on at its start (there is none after power-on); and one less as long as one is being
worked on at its end. -/
theorem verdict_per_request {ok : Box → SessionEvent → Prop} {b₀ b : Box}
    {trace : List (Box × SessionEvent)}
    (h : Path (fun b e b' => sessionStep b e = some b') ok b₀ trace b) :
    (observed sessionNotified trace).countP Notification.isVerdict + b.pending ≤
      b₀.pending + trace.countP fun x => x.1.sessionAsks x.2 := by
  refine h.invariant (I := fun trace b =>
    (observed sessionNotified trace).countP Notification.isVerdict + b.pending ≤
      b₀.pending + trace.countP fun x => x.1.sessionAsks x.2) (Nat.zero_add _).le ?_
  intro trace b e b' hI _ hstep
  have hone := sessionStep_verdicts hstep
  have hasks : ([(b, e)] : List (Box × SessionEvent)).countP (fun x => x.1.sessionAsks x.2) =
      (b.sessionAsks e).toNat := by
    cases hb : b.sessionAsks e <;> simp [hb]
  rw [observed_snoc, List.countP_append, List.countP_append, hasks]
  dsimp only
  omega

/-! ## Reading a user back -/

/-- The characteristic of a slot. -/
def readUser : Slot → ReadUuid
  | .first => .user1
  | .second => .user2

omit [CJson] in
theorem not_mem_credentialsNotified (w : Wifi) (s : Wifi.CredentialsScript) (new : Credentials) :
    .verificationSuccess ∉ w.credentialsNotified s new := by
  unfold Wifi.credentialsNotified
  split <;> simp

theorem not_mem_onWriteNotified (b : Box) (uuid : BleUuid) (value : Bytes) (s : Wifi.CredentialsScript) :
    .verificationSuccess ∉ b.onWriteNotified uuid value s := by
  intro hmem
  have hnone := countP_onWriteNotified b uuid value s
  rw [List.countP_eq_zero] at hnone
  exact hnone _ hmem rfl

omit [CJson] in
/-- Settings that are not users do not change them. -/
theorem foldl_apply_user {es : List SettingsEvent} (h : ∀ n id, .user n id ∉ es) (t : Settings) :
    (es.foldl Settings.apply t).user = t.user := by
  induction es generalizing t with
  | nil => rfl
  | cons e es ih =>
      rw [List.foldl_cons, ih fun n id hmem => h n id (List.mem_cons_of_mem _ hmem)]
      cases e with
      | user n id => exact absurd List.mem_cons_self (h n id)
      | boxName name => rfl
      | volume volume maxVolume => rfl
      | credentials c => rfl

omit [CJson] in
theorem user_not_mem_credentialsAsked (b : Box) (s : Wifi.CredentialsScript) (new : Credentials)
    (n : Slot) (id : Bytes) : .user n id ∉ b.credentialsAsked s new := by
  unfold credentialsAsked
  split <;> simp

/-- A verification asks for the user to be kept that it says yes to, and for nothing otherwise. -/
theorem usersAsked_cases (b : Box) (s : VerifyScript) :
    .verificationSuccess ∉ b.verifyNotified s ∧ b.usersAsked s = [] ∨
      ∃ n, b.slotChecked = some n ∧ .verificationSuccess ∈ b.verifyNotified s ∧
        b.usersAsked s = [.user n (b.pendingName n)] := by
  have hasked := tokenAsked b s
  have houtcome := verifyUserIdWithServer_outcome b s
  generalize b.verifyUserIdWithServer s = r at houtcome
  generalize b.verifyNotified s = notes at houtcome ⊢
  generalize b.usersAsked s = users at houtcome ⊢
  cases houtcome with
  | silent => exact .inl ⟨by simp, rfl⟩
  | failed => exact .inl ⟨by simp, rfl⟩
  | @success _ n hslot =>
      exact .inr ⟨n, hasked.slotChecked.symm.trans hslot, by simp, by rw [hasked.pendingName]⟩

/-- The step told the client that a user is registered, and it is the slot the box checked: the first one
if a user waits there. -/
def Confirms (n : Slot) (x : Box × SessionEvent) : Prop :=
  .verificationSuccess ∈ x.1.sessionNotified x.2 ∧ x.1.slotChecked = some n

instance (n : Slot) (x : Box × SessionEvent) : Decidable (Confirms n x) :=
  inferInstanceAs (Decidable (_ ∧ _))

/-- **One step**: the user of a slot changes if the client is told so, and to what it asked for. -/
theorem sessionAsked_user (b : Box) (e : SessionEvent) (n : Slot) (t : Settings) :
    ((b.sessionAsked e).foldl Settings.apply t).user n =
      if Confirms n (b, e) then text ((b.pendingName n).take 36) else t.user n := by
  have hothers : (∀ n id, .user n id ∉ b.sessionAsked e) →
      .verificationSuccess ∉ b.sessionNotified e →
        ((b.sessionAsked e).foldl Settings.apply t).user n =
          if Confirms n (b, e) then text ((b.pendingName n).take 36) else t.user n := by
    intro hnone hquiet
    rw [if_neg fun h => hquiet h.1, foldl_apply_user hnone]
  cases e with
  | power battery charging s => exact hothers (by simp [sessionAsked]) (by simp [sessionNotified])
  | step e =>
      cases e with
      | handler env =>
          by_cases hcheck : b.state = .initUserIdCheck
          · have hasked : b.sessionAsked (.step (.handler env)) = b.usersAsked env.verify := by
              simp [sessionAsked, asked, hcheck]
            have hnotified : b.sessionNotified (.step (.handler env)) = b.verifyNotified env.verify := by
              simp [sessionNotified, notified, hcheck]
            rcases usersAsked_cases b env.verify with ⟨hquiet, hnone⟩ | ⟨m, hslot, hyes, huser⟩
            · exact hothers (by rw [hasked, hnone]; simp) (by rwa [hnotified])
            · rw [hasked, huser]
              show Function.update t.user m (text ((b.pendingName m).take 36)) n = _
              by_cases hm : n = m
              · rw [hm, Function.update_self, if_pos ⟨by rwa [hnotified], hslot⟩]
              · rw [Function.update_of_ne hm, if_neg]
                rintro ⟨-, hslot'⟩
                exact hm (Option.some.inj (hslot'.symm.trans hslot))
          · refine hothers (fun n id => ?_) ?_
            · show _ ∉ b.asked (.handler env)
              unfold asked
              dsimp only
              split_ifs
              · exact user_not_mem_credentialsAsked _ _ _ _ _
              · simp
            · show _ ∉ b.notified (.handler env)
              unfold notified
              dsimp only
              split
              · exact not_mem_credentialsNotified _ _ _
              · next hstate => exact absurd hstate hcheck
              · simp
      | read now data => exact hothers (by simp [sessionAsked, asked]) (by simp [sessionNotified, notified])
      | write now address len data =>
          refine hothers (fun n id => ?_) (by simp [sessionNotified, notified])
          show _ ∉ b.asked (.write now address len data)
          unfold asked
          dsimp only
          split_ifs <;> simp
      | ble now uuid value s =>
          refine hothers (fun n id => ?_) (not_mem_onWriteNotified b uuid value s)
          show _ ∉ b.asked (.ble now uuid value s)
          unfold asked commandAsked
          dsimp only
          split
          · split
            · split_ifs
              · split
                · exact user_not_mem_credentialsAsked _ _ _ _ _
                · simp
              · split <;> simp
              · simp
            · simp
          · simp
      | pipeline writer => exact hothers (by simp [sessionAsked, asked]) (by simp [sessionNotified, notified])
      | station e => exact hothers (by simp [sessionAsked, asked]) (by simp [sessionNotified, notified])

/-- The last thing the client was told about the slot, or what was on the card. -/
def lastUser (card : Card) (trace : List (Box × SessionEvent)) (n : Slot) : Bytes :=
  match (trace.filter fun x => Confirms n x).getLast? with
  | some x => text ((x.1.pendingName n).take 36)
  | none => readUserID card n.index

omit [CJson] in
theorem lastUser_snoc (card : Card) (trace : List (Box × SessionEvent)) (x : Box × SessionEvent)
    (n : Slot) [CJson] : lastUser card (trace ++ [x]) n =
      if Confirms n x then text ((x.1.pendingName n).take 36) else lastUser card trace n := by
  unfold lastUser
  by_cases hx : Confirms n x
  · simp [hx]
  · simp [hx]

omit [CJson] in
/-- The answer to a read of the user of a slot. -/
def userText (n : Slot) (id : Bytes) : Bytes :=
  match n with
  | .first => str "\x7b\"user1\":\"" ++ id ++ str "\"\x7d"
  | .second => str "\x7b\"user2\":\"" ++ id ++ str "\"\x7d"

omit [CJson] in
theorem length_stored_le (c : Card) (path : Bytes) :
    (text (((c.content? path).getD []).take 36)).length ≤ 36 := by
  have hle := List.IsPrefix.length_le ( text_prefix (((c.content? path).getD []).take 36))
  rw [List.length_take] at hle
  omega

omit [CJson] in
theorem onRead_user {b : Box} (h : Durable b) (macID : Bytes) (free : Option (UInt32 × UInt16)) (n : Slot) :
    b.onRead macID free (readUser n) = some (userText n (b.settings.user n)) := by
  have hshort : (b.settings.user n).length ≤ 36 := length_stored_le b.dl.card (userIdPath n.index)
  have huser := h.user n
  have hprint : b.onRead macID free (readUser n) = strcpy 80 (userText n (text (b.user n))) := by
    cases n <;> rfl
  rw [hprint, huser]
  refine if_pos ?_
  have hopen1 : (str "\x7b\"user1\":\"").length = 10 := rfl
  have hopen2 : (str "\x7b\"user2\":\"").length = 10 := rfl
  have hclose : (str "\"\x7d").length = 2 := rfl
  cases n with
  | first =>
      simp only [userText, List.length_append, hopen1, hclose]
      omega
  | second =>
      simp only [userText, List.length_append, hopen2, hclose]
      omega

omit [CJson] in
/-- There are fewer than 2⁴¹ free bytes: the sectors are counted in 32 bits. -/
theorem getFreeMemory_lt (free : Option (UInt32 × UInt16)) : getFreeMemory free < 2 ^ 41 := by
  cases free with
  | none => exact Nat.two_pow_pos 41
  | some found =>
      obtain ⟨freeCluster, csize⟩ := found
      have hlt := (freeCluster * csize.toUInt32).toNat_lt
      unfold getFreeMemory
      dsimp only
      omega

omit [CJson] in
/-- Nothing that is read overruns the 80 bytes it is printed into. -/
theorem onRead_fits {b : Box} (h : Durable b) (mac : Fin 6 → UInt8) (free : Option (UInt32 × UInt16))
    (uuid : ReadUuid) : (b.onRead (macText mac) free uuid).isSome = true := by
  have hfits : ∀ s : Bytes, s.length < 80 → (strcpy 80 s).isSome = true := by
    intro s hs
    rw [strcpy, if_pos hs]
    rfl
  have hbyte : ∀ v : UInt8, (unsigned v.toNat).length ≤ 3 := by
    intro v
    have hlt := v.toNat_lt
    exact length_digits_le (by decide) (by omega)
  have hclose : (str "\x7d").length = 1 := rfl
  have hquote : (str "\"\x7d").length = 2 := rfl
  cases uuid with
  | macID =>
      have hopen : (str "\x7b\"macID\":\"").length = 10 := rfl
      have hmac : (macText mac).length = 17 := rfl
      refine hfits _ ?_
      simp only [List.length_append, hopen, hmac, hquote]
      omega
  | battery =>
      have hlen := hbyte b.batteryLevel
      have hopen : (str "\x7b\"battery\":").length = 11 := rfl
      refine hfits _ ?_
      simp only [List.length_append, hopen, hclose]
      omega
  | storageInfo =>
      have hfloat := toFloat_le (k := 17) (getFreeMemory_lt free)
      have hfree := getFreeMemory_lt free
      have hlen : (fixed (toFloat (getFreeMemory free)) (1024 * 1024)).length ≤ 7 + 7 :=
        length_fixed_le (by decide) (by omega)
      have hopen : (str "\x7b\"freeBytes\":\"").length = 14 := rfl
      refine hfits _ ?_
      simp only [List.length_append, hopen, hquote]
      omega
  | wifiStat =>
      unfold onRead
      cases b.dl.wifi.isConnected <;> exact hfits _ (by decide)
  | volume =>
      have hlen := hbyte b.volume
      have hlen' := hbyte b.maxVolume
      have hopen : (str "\x7b\"V\":").length = 5 := rfl
      have hmax : (str ", \"maxV\":").length = 9 := rfl
      refine hfits _ ?_
      simp only [List.length_append, hopen, hmax, hclose]
      omega
  | user1 =>
      rw [show ReadUuid.user1 = readUser .first from rfl, onRead_user h]
      rfl
  | user2 =>
      rw [show ReadUuid.user2 = readUser .second from rfl, onRead_user h]
      rfl
  | boxID =>
      have hshort := length_stored_le b.dl.card boxIdPath
      have hopen : (str "\x7b\"boxid\":\"").length = 10 := rfl
      refine hfits _ ?_
      simp only [List.length_append, uniqueBoxID, hopen, hquote]
      omega
  | lampInfo => exact hfits _ (by decide)

/-- **A registration lasts.** In every session on a formatted card, reading a user back gives the name that
waited in its slot when the client was last told yes with that slot checked, cut to 36 bytes, or the user
that was on the card; over any number of power cycles, and whatever else goes on. No read overruns its
buffer. -/
theorem registration_lasts {ok : Box → SessionEvent → Prop} {card : Card}
    {credentialsFile : Option Credentials} {battery charging : UInt8} {s : WaitScript}
    {trace : List (Box × SessionEvent)} {b : Box} (hcard : Formatted card)
    (h : Path (fun b e b' => sessionStep b e = some b') ok
      (appMain card credentialsFile battery charging s) trace b) (mac : Fin 6 → UInt8)
    (free : Option (UInt32 × UInt16)) :
    (∀ n, b.onRead (macText mac) free (readUser n) = some (userText n (lastUser card trace n))) ∧
      ∀ uuid, (b.onRead (macText mac) free uuid).isSome = true := by
  have hstart := appMain_durable hcard.mounted credentialsFile battery charging s
  have hlast := h.invariant
    (I := fun trace b => Durable b ∧ ∀ n, b.settings.user n = lastUser card trace n) ⟨hstart, ?_⟩ ?_
  · refine ⟨fun n => ?_, onRead_fits hlast.1 mac free⟩
    rw [onRead_user hlast.1, hlast.2]
  · intro n
    rw [appMain_settings]
    rfl
  · rintro trace b e b' ⟨hdurable, huser⟩ - hstep
    obtain ⟨hdurable', hsettings⟩ := sessionStep_settings hdurable hstep
    refine ⟨hdurable', fun n => ?_⟩
    rw [hsettings, sessionAsked_user, lastUser_snoc, huser]

end

/-! ## A first user -/

/-- A card with nothing on it. -/
def emptyCard : Card where
  dirs := [str "/sdcard"]
  files := []
  files_nodup := List.nodup_nil
  files_in_dirs := by simp

/-- A box that finds its network. -/
def onlineBox : Box :=
  appMain emptyCard (some ⟨str "home", str "secret"⟩) 100 0 ⟨[], [.staGotIp]⟩

/-- A client adds a user, the server confirms it, and the power is lost. -/
def userSession : List SessionEvent := firstUser.map .step ++ [.power 100 0 noWaits]

theorem verdict_per_request_userSession :
    ∃ b, runList (@sessionStep answerParser) onlineBox userSession = some b ∧
      (observed (@sessionNotified answerParser)
        (history (@sessionStep answerParser) onlineBox userSession)).countP Notification.isVerdict +
          b.pending ≤ (history (@sessionStep answerParser) onlineBox userSession).countP
            fun x => @sessionAsks answerParser x.1 x.2 := by
  have hruns : (runGuarded (@sessionStep answerParser) (fun _ _ => True) onlineBox
      userSession).isSome = true := by decide +kernel
  obtain ⟨b, hb⟩ := Option.isSome_iff_exists.1 hruns
  have hcount := @verdict_per_request answerParser _ _ _ _ (path_of_runGuarded userSession hb)
  rw [show onlineBox.pending = 0 from pending_appMain _ _ _ _ _, Nat.zero_add] at hcount
  exact ⟨b, runList_of_runGuarded hb, hcount⟩

theorem registration_lasts_userSession :
    ∃ b, runList (@sessionStep answerParser) onlineBox userSession = some b ∧
      b.settings.user .first = str "c" ∧
      ∀ n, b.onRead (macText fun _ => 0) (some (30000, 64)) (readUser n) =
        some (userText n (@lastUser answerParser emptyCard
          (history (@sessionStep answerParser) onlineBox userSession) n)) := by
  have hruns : (runGuarded (@sessionStep answerParser) (fun _ _ => True) onlineBox userSession).any
      (fun b => b.settings.user .first = str "c") = true := by decide +kernel
  obtain ⟨b, hb, huser⟩ := (Option.any_eq_true _ _).1 hruns
  have hcard : Formatted emptyCard := ⟨by decide +kernel, by decide +kernel, by decide +kernel⟩
  exact ⟨b, runList_of_runGuarded hb, of_decide_eq_true huser,
    (@registration_lasts answerParser _ _ _ _ _ _ _ _ hcard (path_of_runGuarded userSession hb) _ _).1⟩

end Box

end Cubbies
