import Cubbies.Proofs.CredentialsRestored
import Cubbies.Proofs.UserSlots

set_option autoImplicit false

/-! # The use count of the connection

`WiFi::connect` counts a user even when it fails, and `disconnect` takes one away, so a call is balanced
if it makes as many of the one as of the other (`settings_connect`, `settings_disconnect`).
`verifyUserIdWithServer` makes one of each on most of its ways. `downloadToken`, which it calls without
a valid token, connects and never disconnects, and so does its own way out when the answer does not
parse. -/

namespace Cubbies

open CString

/-! ## The two operations -/

namespace Wifi

theorem settings_connect {w : Wifi} (hssid : w.credentials.ssid ≠ []) (s : WaitScript) :
    (w.connect s).2.settings = { w.settings with count := w.count + 1 } := by
  unfold connect
  rw [if_neg hssid]
  dsimp only
  split
  · rfl
  · exact settings_connectPrivate _ s

theorem settings_disconnect {w : Wifi} (hssid : w.credentials.ssid ≠ []) (s : WaitScript) :
    (w.disconnect s).2.settings = { w.settings with count := w.count - 1 } := by
  unfold disconnect
  rw [if_neg hssid]
  dsimp only
  split
  · exact settings_disconnectPrivate _ s
  · rfl

end Wifi

namespace Downloader

theorem writeFile_wifi (d : Downloader) (path content : Bytes) :
    (d.writeFile path content).wifi = d.wifi := by
  unfold writeFile openWrite
  cases d.card.fopenWrite path with
  | none => rfl
  | some c => rfl

/-- `TokenCallback` and the error file leave the connection alone. -/
theorem tokenExchange_wifi (d : Downloader) (x : Exchange) (code : ℤ) (tail : Bytes) :
    ((tokenCallback.perform frame d x).2.writeTokenError code tail).wifi = d.wifi := by
  have hheader : ∀ (d : Downloader) (key value : Bytes),
      (tokenCallback.onHeader d key value).wifi = d.wifi := by
    intro d key value
    unfold tokenCallback
    dsimp only
    split_ifs <;> rfl
  have hexchange : (tokenCallback.perform frame d x).2.wifi = d.wifi :=
    Callback.perform_induction (P := fun d' : Downloader => d'.wifi = d.wifi) rfl
      (fun d key value h => (hheader d key value).trans h) (fun _ _ h => h) (fun _ h => h)
      (fun _ h => h) fun _ _ _ h => h
  unfold writeTokenError
  split
  · rw [writeFile_wifi, hexchange]
  · exact hexchange

/-- A request for the token takes the connection up and does not give it back. -/
theorem downloadToken_settings {d : Downloader} (hssid : d.wifi.credentials.ssid ≠ [])
    (hinvalid : d.validTokenFlag = false) (connect : WaitScript) (x : Exchange) (tail : Bytes) :
    (d.downloadToken connect x tail).wifi.settings =
      { d.wifi.settings with count := d.wifi.count + 1 } := by
  have hconnect := Wifi.settings_connect hssid connect
  unfold downloadToken
  rw [if_neg (by rw [hinvalid]; decide)]
  dsimp only
  split
  · refine Eq.trans (congrArg Wifi.settings ?_) hconnect
    exact tokenExchange_wifi { d with wifi := (d.wifi.connect connect).2, tokenRequestFlag := true } x _ _
  · exact hconnect

end Downloader

/-! ## One verification -/

namespace Box

theorem writeUserID_wifi (b : Box) (userIndex : ℕ) (user : Bytes) :
    (b.writeUserID userIndex user).dl.wifi = b.dl.wifi := by
  unfold writeUserID
  dsimp only
  split <;> rfl

theorem registerUser_wifi (b : Box) (json : Json) (body : Bytes) :
    (b.registerUser json body).dl.wifi = b.dl.wifi := by
  rcases registerUser_writes b json body with h | ⟨i, user, -, h⟩
  · rw [h]
  · rw [h]
    exact writeUserID_wifi b i user

section

variable [CJson]

/-- The answer is received, and what is then in the buffer does not parse. -/
def InvalidAnswer (b : Box) (s : VerifyScript) : Prop :=
  s.answer.ok = true ∧ CJson.parse (text (s.answer.chunks.foldl overlay b.outputBuff)) = none

/-- It gives the connection back unless its answer does not parse. -/
theorem verifyWithToken_settings {b : Box} (hssid : b.dl.wifi.credentials.ssid ≠ [])
    (s : VerifyScript) :
    ((b.verifyWithToken s).2.dl.wifi.settings = b.dl.wifi.settings ∧
        ¬ ((b.dl.wifi.connect s.connect).1 = 0 ∧ b.InvalidAnswer s)) ∨
      ((b.verifyWithToken s).2.dl.wifi.settings =
          { b.dl.wifi.settings with count := b.dl.wifi.count + 1 } ∧
        (b.dl.wifi.connect s.connect).1 = 0 ∧ b.InvalidAnswer s) := by
  have hup := Wifi.settings_connect hssid s.connect
  -- whoever comes with the connection taken up gives it back
  have hback : ∀ w : Wifi, w.settings = { b.dl.wifi.settings with count := b.dl.wifi.count + 1 } →
      (w.disconnect s.disconnect).2.settings = b.dl.wifi.settings := by
    intro w hw
    have hcount : w.count = b.dl.wifi.count + 1 := congrArg Wifi.Settings.count hw
    have hcredentials : w.credentials = b.dl.wifi.credentials := congrArg Wifi.Settings.credentials hw
    rw [Wifi.settings_disconnect (by rw [hcredentials]; exact hssid), hw, hcount, Int.add_sub_cancel]
    rfl
  have hend := verifyWithToken_end b s
  generalize b.verifyWithToken s = r at hend ⊢
  cases hend with
  | offline hoffline => exact .inl ⟨hback _ hup, fun hbad => hoffline hbad.1⟩
  | lost _ hlost => exact .inl ⟨hback _ hup, fun hbad => hlost hbad.2.1⟩
  | invalid honline hok hparse => exact .inr ⟨hup, honline, hok, hparse⟩
  | parsed json _ _ hparse =>
      refine .inl ⟨?_, fun hbad => ?_⟩
      · refine hback _ ?_
        rw [registerUser_wifi]
        exact hup
      · cases hparse.symm.trans hbad.2.2

/-- The token is valid, and an answer that comes parses. -/
def Balances (b : Box) (s : VerifyScript) : Prop :=
  b.dl.validTokenFlag = true ∧ ¬ ((b.dl.wifi.connect s.connect).1 = 0 ∧ b.InvalidAnswer s)

/-- **One call** leaves the WiFi object's count and credentials as they were exactly when it
`Balances`. -/
theorem verifyUserIdWithServer_settings {b : Box} (hssid : b.dl.wifi.credentials.ssid ≠ [])
    (s : VerifyScript) :
    ((b.verifyUserIdWithServer s).2.dl.wifi.settings = b.dl.wifi.settings ∧ b.Balances s) ∨
      (b.dl.wifi.count < (b.verifyUserIdWithServer s).2.dl.wifi.count ∧ ¬ b.Balances s) := by
  rw [verifyUserIdWithServer_eq, withToken]
  by_cases hvalid : b.dl.validTokenFlag = true
  · rw [if_pos hvalid]
    rcases verifyWithToken_settings hssid s with ⟨hsame, hgood⟩ | ⟨hmore, hbad⟩
    · exact .inl ⟨hsame, hvalid, hgood⟩
    · have hcount : _ = b.dl.wifi.count + 1 := congrArg Wifi.Settings.count hmore
      exact .inr ⟨by show _ < (b.verifyWithToken s).2.dl.wifi.settings.count; omega,
        fun hbalances => hbalances.2 hbad⟩
  · rw [if_neg hvalid]
    have htoken : (b.dl.new.downloadToken s.tokenConnect s.token.atomic s.errorTail).wifi.settings =
        { b.dl.wifi.settings with count := b.dl.wifi.count + 1 } :=
      Downloader.downloadToken_settings (d := b.dl.new) hssid (Bool.eq_false_iff.2 hvalid) _ _ _
    generalize b.dl.new.downloadToken s.tokenConnect s.token.atomic s.errorTail = dl at htoken ⊢
    have hasked : dl.wifi.count = b.dl.wifi.count + 1 := congrArg Wifi.Settings.count htoken
    have hcredentials : dl.wifi.credentials = b.dl.wifi.credentials :=
      congrArg Wifi.Settings.credentials htoken
    refine .inr ⟨?_, fun hbalances => hvalid hbalances.1⟩
    have hrest := verifyWithToken_settings (b := { b with dl := dl })
      (by rw [hcredentials]; exact hssid) s
    rcases hrest with ⟨hsame, -⟩ | ⟨hmore, -⟩
    · have hcount : (verifyWithToken { b with dl := dl } s).2.dl.wifi.count = dl.wifi.count :=
        congrArg Wifi.Settings.count hsame
      omega
    · have hcount : (verifyWithToken { b with dl := dl } s).2.dl.wifi.count = dl.wifi.count + 1 :=
        congrArg Wifi.Settings.count hmore
      omega

/-- Calls of `verifyUserIdWithServer` one after the other. -/
def verifyStep (b : Box) (s : VerifyScript) (b' : Box) : Prop := b' = (b.verifyUserIdWithServer s).2

/-- **The use count.** A call leaves the count it found exactly when the token is valid and the answer,
if one comes, parses; and calls that all meet this leave it however many they are. The chunks of an answer
fit the buffer they are copied to (`VerifyScript.answer_fits`). -/
theorem useCount_balanced_iff :
    (∀ (b : Box) (s : VerifyScript), b.dl.wifi.credentials.ssid ≠ [] →
      ((b.verifyUserIdWithServer s).2.dl.wifi.count = b.dl.wifi.count ↔ b.Balances s)) ∧
    ∀ b b' : Box, b.dl.wifi.credentials.ssid ≠ [] → Runs.Reached verifyStep Balances b b' →
      b'.dl.wifi.count = b.dl.wifi.count := by
  constructor
  · intro b s hssid
    rcases verifyUserIdWithServer_settings hssid s with ⟨hsame, hbalances⟩ | ⟨hmore, hleaks⟩
    · exact iff_of_true (congrArg Wifi.Settings.count hsame) hbalances
    · exact iff_of_false hmore.ne' hleaks
  · intro b b' hssid hrun
    have hsettings : b'.dl.wifi.settings = b.dl.wifi.settings := by
      refine hrun.invariant (I := fun b' : Box => b'.dl.wifi.settings = b.dl.wifi.settings) rfl ?_
      rintro b₁ s _ hsame hbalances rfl
      have hcredentials : b₁.dl.wifi.credentials = b.dl.wifi.credentials :=
        congrArg Wifi.Settings.credentials hsame
      rcases verifyUserIdWithServer_settings (by rw [hcredentials]; exact hssid) s with
        ⟨hkept, -⟩ | ⟨-, hleaks⟩
      · exact hkept.trans hsame
      · exact absurd hbalances hleaks
    exact congrArg Wifi.Settings.count hsettings

end

/-! ## A box without a token -/

/-- A call whose answer confirms both users. -/
def confirmedCall (b : Box) : Box :=
  (@verifyUserIdWithServer confirmParser b (answeredCheck [confirmText] (by decide))).2

/-- Without a token the count goes up with every call. -/
theorem connectedBox_leaks :
    ¬ ∀ (b : Box) (s : VerifyScript), b.dl.wifi.credentials.ssid ≠ [] →
      (@verifyUserIdWithServer confirmParser b s).2.dl.wifi.count = b.dl.wifi.count := by
  intro h
  have hcount := h connectedBox (answeredCheck [confirmText] (by decide)) (by decide)
  revert hcount
  decide +kernel

theorem balances_of_parses {b : Box} (htoken : b.dl.validTokenFlag = true)
    (hparses : @CJson.parse confirmParser
      (text ((answeredCheck [confirmText] (by decide)).answer.chunks.foldl overlay b.outputBuff)) ≠ none) :
    @Balances confirmParser b (answeredCheck [confirmText] (by decide)) :=
  ⟨htoken, fun hbad => hparses hbad.2.2⟩

/-- With a token it stays, in one call and in two. -/
theorem useCount_balanced_tokenBox :
    (confirmedCall tokenBox).dl.wifi.count = tokenBox.dl.wifi.count ∧
      (confirmedCall (confirmedCall tokenBox)).dl.wifi.count = tokenBox.dl.wifi.count := by
  have hfirst := balances_of_parses (b := tokenBox) rfl (by decide +kernel)
  have hsecond := balances_of_parses (b := confirmedCall tokenBox) (by decide +kernel)
    (by decide +kernel)
  obtain ⟨hcall, hruns⟩ := @useCount_balanced_iff confirmParser
  exact ⟨(hcall tokenBox (answeredCheck [confirmText] (by decide)) (by decide)).2 hfirst,
    hruns tokenBox _ (by decide) (.step (.step .start hfirst rfl) hsecond rfl)⟩

end Box

end Cubbies
