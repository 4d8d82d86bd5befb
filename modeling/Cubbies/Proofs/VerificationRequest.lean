import Cubbies.Lib.JsonText
import Cubbies.Proofs.UserSlots

set_option autoImplicit false

/-! # The verification request

`verifyUserIdWithServer` prints the MAC address and the two new users between quotation marks, as they
are. That is the JSON document it is meant to be exactly if neither user has a character that JSON wants
escaped; the user the server is asked about is the one that is stored if it has no more than 36 bytes
(`verifyRequest_iff`). -/

namespace Cubbies

open CString JsonText

/-! ## What is posted -/

/-- `macID`: `"%02X:%02X:%02X:%02X:%02X:%02X"`. -/
def macText (mac : Fin 6 → UInt8) : Bytes :=
  hexByte (mac 0) ++ str ":" ++ hexByte (mac 1) ++ str ":" ++ hexByte (mac 2) ++ str ":" ++
    hexByte (mac 3) ++ str ":" ++ hexByte (mac 4) ++ str ":" ++ hexByte (mac 5)

theorem isName_hexDigit : ∀ n < 16, IsName [hexDigit n] := by decide +kernel

theorem isName_hexByte (b : UInt8) : IsName (hexByte b) := by
  have hlt := b.toNat_lt
  exact (isName_hexDigit (b.toNat / 16) (by omega)).append (isName_hexDigit (b.toNat % 16) (by omega))

theorem isName_macText (mac : Fin 6 → UInt8) : IsName (macText mac) := by
  have hcolon : IsName (str ":") := by decide +kernel
  have hstep {s : Bytes} (hs : IsName s) (b : UInt8) : IsName (s ++ str ":" ++ hexByte b) :=
    (hs.append hcolon).append (isName_hexByte b)
  exact hstep (hstep (hstep (hstep (hstep (isName_hexByte _) _) _) _) _) _

namespace Box

/-- `postData[500]` of `System::verifyUserIdWithServer`. -/
def verifyRequest (b : Box) (mac : Fin 6 → UInt8) : Option Bytes :=
  strcpy 500 (str "\x7b\"macAddress\": \"" ++ macText mac ++ str "\",\"user1Id\": \"" ++ b.initUser1 ++
    str "\",\"user2Id\": \"" ++ b.initUser2 ++ str "\"\x7d")

/-- The members the request is meant to have. -/
def meant (b : Box) (mac : Fin 6 → UInt8) : List (Bytes × Bytes) :=
  [(str "macAddress", macText mac), (str "user1Id", b.initUser1), (str "user2Id", b.initUser2)]

theorem verifyRequest_eq {b : Box} (mac : Fin 6 → UInt8) (hfirst : b.initUser1.length < 50)
    (hsecond : b.initUser2.length < 50) : b.verifyRequest mac = some (objectText (b.meant mac)) := by
  have hopen : str "\x7b\"macAddress\": \"" = 123 :: 34 :: (str "macAddress" ++ [34, 58, 32, 34]) := by
    decide
  have huser1 : str "\",\"user1Id\": \"" = 34 :: 44 :: 34 :: (str "user1Id" ++ [34, 58, 32, 34]) := by
    decide
  have huser2 : str "\",\"user2Id\": \"" = 34 :: 44 :: 34 :: (str "user2Id" ++ [34, 58, 32, 34]) := by
    decide
  have hclose : str "\"\x7d" = [34, 125] := by decide
  have hbody : str "\x7b\"macAddress\": \"" ++ macText mac ++ str "\",\"user1Id\": \"" ++ b.initUser1 ++
      str "\",\"user2Id\": \"" ++ b.initUser2 ++ str "\"\x7d" = objectText (b.meant mac) := by
    rw [hopen, huser1, huser2, hclose]
    simp [objectText, meant, membersText, memberText]
  unfold verifyRequest
  rw [hbody]
  refine if_pos ?_
  have hmac : (macText mac).length = 17 := rfl
  have hname : (str "macAddress").length = 10 := rfl
  have hname1 : (str "user1Id").length = 7 := rfl
  have hname2 : (str "user2Id").length = 7 := rfl
  simp only [objectText, meant, membersText, memberText, List.length_cons, List.length_append,
    List.length_nil, hmac, hname, hname1, hname2]
  omega

/-! ## What it says -/

/-- The request is the document it is meant to be, and a user that is stored on its answer is the one
the server was asked about. -/
structure SaysWhatIsMeant (b : Box) (mac : Fin 6 → UInt8) : Prop where
  document : ∃ body, b.verifyRequest mac = some body ∧ (∃ members, Document body members) ∧
    ∀ members, Document body members → members.Perm (b.meant mac)
  stored : ∀ n, b.slotChecked = some n → ∀ json answer,
    (json.getObjectItemCaseSensitive n.field).any Json.isTrue = true →
      (b.registerUser json answer).user n = b.pendingName n

theorem plain_macAddress (mac : Fin 6 → UInt8) : PlainMember (str "macAddress", macText mac) := by
  have hname : IsName (str "macAddress") := by decide +kernel
  exact ⟨hname.plain, (isName_macText mac).plain⟩

theorem plain_user1Id : Plain (str "user1Id") := by
  have hname : IsName (str "user1Id") := by decide +kernel
  exact hname.plain

theorem plain_user2Id : Plain (str "user2Id") := by
  have hname : IsName (str "user2Id") := by decide +kernel
  exact hname.plain

/-- A document that is what was meant leaves no room for an escape. -/
theorem plain_of_document {b : Box} {mac : Fin 6 → UInt8} {members : List (Bytes × Bytes)}
    (hdoc : Document (objectText (b.meant mac)) members) (hperm : members.Perm (b.meant mac)) :
    Plain b.initUser1 ∧ Plain b.initUser2 := by
  have hopen : skip (objectText (b.meant mac)) = 123 :: membersText (b.meant mac) := skip_cons rfl _
  cases hdoc with
  | empty _ _ _ => exact absurd hperm.length_eq (by simp [meant])
  | object hbrace hmembers _ =>
      obtain rfl := (List.cons.inj (hopen.symm.trans hbrace)).2
      rw [skip_membersText] at hmembers
      -- the MAC address is read as it was printed
      obtain ⟨users, rfl, husers⟩ := Members.of_plain_cons (plain_macAddress mac) hmembers
      have hrest := (List.perm_cons _).1 hperm
      -- the first user's name is next, and so is the second one's behind it
      obtain ⟨value, others, rfl⟩ := Members.head_name plain_user1Id husers
      have hfirst : value = b.initUser1 := by
        have hmem := hrest.subset List.mem_cons_self
        have hne : str "user1Id" ≠ str "user2Id" := by decide
        simpa [hne] using hmem
      rw [hfirst] at hrest husers
      obtain rfl := List.perm_singleton.1 ((List.perm_cons _).1 hrest)
      exact Members.plain_of_two plain_user1Id plain_user2Id husers

/-- **What the request says.** For every box with two users of at most 49 characters, it is the document
that is meant, and the user stored on its answer is the one it asks about, if and only if the users are
plain and the one to be stored has at most 36 bytes. -/
theorem verifyRequest_iff {b : Box} (mac : Fin 6 → UInt8) (hfirst : b.initUser1.length < 50)
    (hsecond : b.initUser2.length < 50) :
    b.SaysWhatIsMeant mac ↔ Plain b.initUser1 ∧ Plain b.initUser2 ∧
      ∀ n, b.slotChecked = some n → (b.pendingName n).length ≤ 36 := by
  have hbody := verifyRequest_eq mac hfirst hsecond
  constructor
  · rintro ⟨⟨body, hposted, ⟨members, hdoc⟩, hall⟩, hstored⟩
    obtain rfl := Option.some.inj (hbody.symm.trans hposted)
    obtain ⟨hplain1, hplain2⟩ := plain_of_document hdoc (hall members hdoc)
    refine ⟨hplain1, hplain2, fun n hn => ?_⟩
    -- an answer that confirms the slot
    have hconfirms : ((Json.object [(n.field, .bool true)]).getObjectItemCaseSensitive n.field).any
        Json.isTrue = true := by
      simp [Json.getObjectItemCaseSensitive, Json.isTrue]
    have htaken := hstored n hn _ [] hconfirms
    rw [registerUser_user, if_pos ⟨hn, hconfirms⟩] at htaken
    exact (List.take_eq_self_iff _).1 htaken
  · rintro ⟨hplain1, hplain2, hshort⟩
    have hplain : ∀ m ∈ b.meant mac, PlainMember m := by
      simp only [meant, List.forall_mem_cons]
      exact ⟨plain_macAddress mac, ⟨plain_user1Id, hplain1⟩, ⟨plain_user2Id, hplain2⟩, by simp⟩
    refine ⟨⟨_, hbody, ⟨_, (document_objectText hplain _).2 rfl⟩, fun members hdoc => ?_⟩, ?_⟩
    · rw [(document_objectText hplain members).1 hdoc]
      exact .refl _
    · intro n hn json answer hconfirms
      rw [registerUser_user, if_pos ⟨hn, hconfirms⟩]
      exact List.take_of_length_le (hshort n hn)

/-! ## A plain user and a quotation mark -/

def sampleMac : Fin 6 → UInt8 := fun i => UInt8.ofNat i

/-- A box that was given this first user. -/
def namedBox (user : Bytes) : Box := { emptyBattery with initUser1 := user }

theorem verifyRequest_plain : (namedBox (str "c")).SaysWhatIsMeant sampleMac := by
  have hname : IsName (str "c") := by decide +kernel
  have hempty : IsName (namedBox (str "c")).initUser2 := by decide +kernel
  refine (verifyRequest_iff sampleMac (by decide) (by decide)).2 ⟨hname.plain, hempty.plain, ?_⟩
  intro n hn
  cases n with
  | first => decide
  | second => decide

/-- The user is a quotation mark, which is printed without a backslash. -/
theorem quotationMark_misread :
    ¬ ∀ (b : Box) (mac : Fin 6 → UInt8), (0 : UInt8) ∉ b.initUser1 → (0 : UInt8) ∉ b.initUser2 →
      b.initUser1.length < 50 → b.initUser2.length < 50 → b.SaysWhatIsMeant mac := by
  intro h
  have hsays := h (namedBox [34]) sampleMac (by decide) (by decide) (by decide) (by decide)
  obtain ⟨body, hposted, ⟨members, hdoc⟩, hall⟩ := hsays.document
  rw [verifyRequest_eq sampleMac (by decide) (by decide)] at hposted
  obtain rfl := Option.some.inj hposted
  have hplain := (plain_of_document hdoc (hall members hdoc)).1
  exact (hplain.bytes 34 List.mem_cons_self).2.1 rfl

end Box

end Cubbies
