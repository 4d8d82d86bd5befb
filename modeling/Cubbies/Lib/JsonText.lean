import Cubbies.Lib.CString

set_option autoImplicit false

/-! # JSON objects whose values are strings

The grammar of RFC 8259 as relations between a text, what it stands for and what follows it, for
objects all of whose values are strings. A text is bytes, its characters in UTF-8; a string stands for
the bytes of its characters. No token starts with whitespace, so that `ws` is read as far as it goes. -/

namespace JsonText

open CString

/-! ## The grammar -/

/-- A character of `ws`. -/
def isWs (b : UInt8) : Bool := b = 0x20 ∨ b = 0x09 ∨ b = 0x0A ∨ b = 0x0D

/-- What follows `ws`. -/
def skip (text : Bytes) : Bytes := text.dropWhile isWs

/-- `unescaped`: all characters but the controls, the quotation mark and the backslash. -/
def Unescaped (c : Char) : Prop := 0x20 ≤ c.toNat ∧ c.toNat ≠ 34 ∧ c.toNat ≠ 92

/-- The escapes of two characters, by the second one. -/
def escapes : List (UInt8 × UInt8) :=
  [(34, 34), (92, 92), (47, 47), (98, 8), (102, 12), (110, 10), (114, 13), (116, 9)]

def hexValue? (b : UInt8) : Option ℕ :=
  if 48 ≤ b ∧ b ≤ 57 then some (b.toNat - 48)
  else if 65 ≤ b ∧ b ≤ 70 then some (b.toNat - 55)
  else if 97 ≤ b ∧ b ≤ 102 then some (b.toNat - 87)
  else none

/-- `4HEXDIG`. -/
def hex4? : Bytes → Option ℕ
  | [a, b, c, d] => do
      let a ← hexValue? a
      let b ← hexValue? b
      let c ← hexValue? c
      let d ← hexValue? d
      pure (((a * 16 + b) * 16 + c) * 16 + d)
  | _ => none

/-- The character of a surrogate pair. -/
def surrogates (high low : ℕ) : Char :=
  Char.ofNat (0x10000 + (high - 0xD800) * 0x400 + (low - 0xDC00))

/-- A string behind its opening quotation mark: the text, what the string stands for, and what follows
the closing quotation mark. A surrogate alone stands for no character. -/
inductive StringTail : Bytes → Bytes → Bytes → Prop where
  | close {rest : Bytes} : StringTail (34 :: rest) [] rest
  | char {c : Char} {text value rest : Bytes} : Unescaped c → StringTail text value rest →
      StringTail (String.utf8EncodeChar c ++ text) (String.utf8EncodeChar c ++ value) rest
  | escape {e b : UInt8} {text value rest : Bytes} : (e, b) ∈ escapes → StringTail text value rest →
      StringTail (92 :: e :: text) (b :: value) rest
  | unicode {digits text value rest : Bytes} {n : ℕ} : hex4? digits = some n → n.isValidChar →
      StringTail text value rest →
      StringTail (92 :: 117 :: (digits ++ text)) (String.utf8EncodeChar (Char.ofNat n) ++ value) rest
  | pair {digits digits' text value rest : Bytes} {high low : ℕ} : hex4? digits = some high →
      0xD800 ≤ high → high < 0xDC00 → hex4? digits' = some low → 0xDC00 ≤ low → low < 0xE000 →
      StringTail text value rest →
      StringTail (92 :: 117 :: (digits ++ 92 :: 117 :: (digits' ++ text)))
        (String.utf8EncodeChar (surrogates high low) ++ value) rest

/-- `member`, with a string for its value: the text, the two strings and what follows. -/
inductive Member : Bytes → Bytes → Bytes → Bytes → Prop where
  | mk {text name afterName colon quote value rest : Bytes} :
      StringTail text name afterName → skip afterName = 58 :: colon → skip colon = 34 :: quote →
      StringTail quote value rest → Member (34 :: text) name value rest

/-- The members of an object that has some, and its closing brace. -/
inductive Members : Bytes → List (Bytes × Bytes) → Bytes → Prop where
  | last {text name value after rest : Bytes} : Member text name value after →
      skip after = 125 :: rest → Members text [(name, value)] rest
  | cons {text name value after next rest : Bytes} {members : List (Bytes × Bytes)} :
      Member text name value after → skip after = 44 :: next → Members (skip next) members rest →
      Members text ((name, value) :: members) rest

/-- A JSON text that is an object with these members. -/
inductive Document : Bytes → List (Bytes × Bytes) → Prop where
  | empty {text inner rest : Bytes} : skip text = 123 :: inner → skip inner = 125 :: rest →
      skip rest = [] → Document text []
  | object {text inner rest : Bytes} {members : List (Bytes × Bytes)} : skip text = 123 :: inner →
      Members (skip inner) members rest → skip rest = [] → Document text members

/-! ## Whitespace -/

theorem length_skip_le (text : Bytes) : (skip text).length ≤ text.length :=
  List.length_dropWhile_le _ _

theorem skip_cons {b : UInt8} (hb : isWs b = false) (text : Bytes) : skip (b :: text) = b :: text :=
  List.dropWhile_cons_of_neg (by simp [hb])

/-- A token takes at least its own byte. -/
theorem length_of_skip {text rest : Bytes} {b : UInt8} (h : skip text = b :: rest) :
    rest.length + 1 ≤ text.length := by
  have hlen := length_skip_le text
  rw [h, List.length_cons] at hlen
  exact hlen

/-! ## UTF-8 -/

theorem utf8_of_lt {c : Char} (h : c.toNat < 128) :
    String.utf8EncodeChar c = [UInt8.ofNat c.toNat] := by
  unfold String.utf8EncodeChar
  exact if_pos (Nat.le_of_lt_succ h)

/-- Any other character is encoded in bytes from 128 on. -/
theorem utf8_of_le {c : Char} (h : 128 ≤ c.toNat) : ∀ b ∈ String.utf8EncodeChar c, 128 ≤ b.toNat := by
  have hbyte : ∀ n, 128 ≤ n → n < 256 → 128 ≤ (UInt8.ofNat n).toNat := by
    intro n hlow hhigh
    rw [UInt8.toNat_ofNat', Nat.mod_eq_of_lt hhigh]
    exact hlow
  have hlong : ¬ c.val.toNat ≤ 0x7f := Nat.not_le_of_lt h
  unfold String.utf8EncodeChar
  dsimp only
  rw [if_neg hlong]
  split_ifs
  all_goals
    simp only [List.forall_mem_cons]
    refine ⟨hbyte _ (by omega) (by omega), hbyte _ (by omega) (by omega), ?_⟩
  · exact List.forall_mem_nil _
  · exact ⟨hbyte _ (by omega) (by omega), List.forall_mem_nil _⟩
  · exact ⟨hbyte _ (by omega) (by omega), hbyte _ (by omega) (by omega), List.forall_mem_nil _⟩

theorem length_utf8_le (c : Char) : (String.utf8EncodeChar c).length ≤ 4 := by
  rw [String.length_utf8EncodeChar]
  exact c.utf8Size_le_four

/-- A text that starts with a byte below 128 starts with that character. -/
theorem eq_of_utf8_append {c : Char} {b : UInt8} {s t : Bytes} (hb : b.toNat < 128)
    (h : String.utf8EncodeChar c ++ s = b :: t) :
    String.utf8EncodeChar c = [b] ∧ c.toNat = b.toNat ∧ s = t := by
  by_cases hc : c.toNat < 128
  · rw [utf8_of_lt hc] at h ⊢
    obtain ⟨hbyte, hrest⟩ := List.cons.inj h
    refine ⟨by rw [hbyte], ?_, hrest⟩
    rw [← hbyte, UInt8.toNat_ofNat', Nat.mod_eq_of_lt (by omega)]
  · obtain ⟨lead, s', henc⟩ := List.exists_cons_of_ne_nil (@String.utf8EncodeChar_ne_nil c)
    have hlead := utf8_of_le (Nat.le_of_not_lt hc) lead (by rw [henc]; exact List.mem_cons_self)
    rw [henc] at h
    rw [(List.cons.inj h).1] at hlead
    omega

/-- The encodings of characters are no prefixes of each other. -/
theorem utf8_append_inj {c c' : Char} {s s' : Bytes}
    (h : String.utf8EncodeChar c ++ s = String.utf8EncodeChar c' ++ s') : c = c' ∧ s = s' := by
  have hdecode : ∀ (c : Char) (s : Bytes),
      (String.utf8EncodeChar c ++ s).toByteArray.utf8DecodeChar? 0 = some c := by
    intro c s
    rw [List.toByteArray_append, ByteArray.utf8DecodeChar?_utf8EncodeChar_append]
  have hchar := hdecode c s
  rw [h, hdecode c' s'] at hchar
  obtain rfl := Option.some.inj hchar
  exact ⟨rfl, List.append_cancel_left h⟩

/-! ## Strings -/

theorem length_of_hex4? {digits : Bytes} {n : ℕ} (h : hex4? digits = some n) : digits.length = 4 := by
  match digits, h with
  | [a, b, c, d], _ => rfl

/-- The characters of a string that needs no escape. -/
def Plain (s : Bytes) : Prop :=
  ∃ cs : List Char, (∀ c ∈ cs, Unescaped c) ∧ s = cs.flatMap String.utf8EncodeChar

theorem Plain.nil : Plain [] := ⟨[], by simp, rfl⟩

theorem Plain.cons {c : Char} {s : Bytes} (hc : Unescaped c) (h : Plain s) :
    Plain (String.utf8EncodeChar c ++ s) := by
  obtain ⟨cs, hcs, rfl⟩ := h
  exact ⟨c :: cs, List.forall_mem_cons.2 ⟨hc, hcs⟩, rfl⟩

/-- No byte of a plain string is a control, a quotation mark or a backslash. -/
theorem Plain.bytes {s : Bytes} (h : Plain s) : ∀ b ∈ s, 0x20 ≤ b.toNat ∧ b.toNat ≠ 34 ∧ b.toNat ≠ 92 := by
  obtain ⟨cs, hcs, rfl⟩ := h
  intro b hb
  obtain ⟨c, hc, hbc⟩ := List.mem_flatMap.1 hb
  by_cases hascii : c.toNat < 128
  · rw [utf8_of_lt hascii] at hbc
    obtain rfl := List.mem_singleton.1 hbc
    rw [UInt8.toNat_ofNat', Nat.mod_eq_of_lt (by omega)]
    exact hcs c hc
  · have hhigh := utf8_of_le (Nat.le_of_not_lt hascii) b hbc
    omega

/-- A plain string is written as it is. -/
theorem Plain.stringTail {s : Bytes} (h : Plain s) (rest : Bytes) :
    StringTail (s ++ 34 :: rest) s rest := by
  obtain ⟨cs, hcs, rfl⟩ := h
  induction cs with
  | nil => exact .close
  | cons c cs ih =>
      obtain ⟨hc, hrest⟩ := List.forall_mem_cons.1 hcs
      rw [List.flatMap_cons, List.append_assoc]
      exact .char hc (ih hrest)

/-- **Escapes only add.** A string has at least as many bytes as it stands for, and if it has no more
it is written as it is. -/
theorem StringTail.length {text value rest : Bytes} (h : StringTail text value rest) :
    ∃ used, text = used ++ 34 :: rest ∧ value.length ≤ used.length ∧
      (used.length = value.length → used = value ∧ Plain value) := by
  induction h with
  | close => exact ⟨[], rfl, Nat.le_refl _, fun _ => ⟨rfl, .nil⟩⟩
  | @char c text value rest hc _ ih =>
      obtain ⟨used, rfl, hle, heq⟩ := ih
      refine ⟨String.utf8EncodeChar c ++ used, (List.append_assoc _ _ _).symm, ?_, ?_⟩
      · rw [List.length_append, List.length_append]
        omega
      · rw [List.length_append, List.length_append]
        intro hlen
        obtain ⟨hused, hplain⟩ := heq (by omega)
        rw [hused]
        exact ⟨rfl, .cons hc hplain⟩
  | @escape e b text value rest _ _ ih =>
      obtain ⟨used, rfl, hle, -⟩ := ih
      refine ⟨92 :: e :: used, rfl, ?_, ?_⟩
      · simp only [List.length_cons]
        omega
      · simp only [List.length_cons]
        omega
  | @unicode digits text value rest n hdigits _ _ ih =>
      obtain ⟨used, rfl, hle, -⟩ := ih
      have hfour := length_of_hex4? hdigits
      have hchar := length_utf8_le (Char.ofNat n)
      refine ⟨92 :: 117 :: (digits ++ used), by simp, ?_, ?_⟩
      · simp only [List.length_cons, List.length_append]
        omega
      · simp only [List.length_cons, List.length_append]
        omega
  | @pair digits digits' text value rest high low hhigh _ _ hlow _ _ _ ih =>
      obtain ⟨used, rfl, hle, -⟩ := ih
      have hfour := length_of_hex4? hhigh
      have hfour' := length_of_hex4? hlow
      have hchar := length_utf8_le (surrogates high low)
      refine ⟨92 :: 117 :: (digits ++ 92 :: 117 :: (digits' ++ used)), by simp, ?_, ?_⟩
      · simp only [List.length_cons, List.length_append]
        omega
      · simp only [List.length_cons, List.length_append]
        omega

/-- A character that needs no escape stands for itself. -/
theorem StringTail.of_char {c : Char} {text value rest : Bytes} (hc : Unescaped c)
    (h : StringTail (String.utf8EncodeChar c ++ text) value rest) :
    ∃ value', value = String.utf8EncodeChar c ++ value' ∧ StringTail text value' rest := by
  -- neither the quotation mark nor the backslash
  have hne : ∀ (b : UInt8) (t : Bytes), b.toNat = 34 ∨ b.toNat = 92 →
      String.utf8EncodeChar c ++ text ≠ b :: t := by
    intro b t hb heq
    have hcode := (eq_of_utf8_append (by omega) heq).2.1
    rw [← hcode] at hb
    exact hb.elim hc.2.1 hc.2.2
  generalize htext : String.utf8EncodeChar c ++ text = text' at h
  cases h with
  | close => exact absurd htext (hne _ _ (.inl rfl))
  | char _ h =>
      obtain ⟨rfl, rfl⟩ := utf8_append_inj htext
      exact ⟨_, rfl, h⟩
  | escape _ _ => exact absurd htext (hne _ _ (.inr rfl))
  | unicode _ _ _ => exact absurd htext (hne _ _ (.inr rfl))
  | pair _ _ _ _ _ _ _ => exact absurd htext (hne _ _ (.inr rfl))

/-- A plain string is read as far as its closing quotation mark. -/
theorem StringTail.of_plain {s text value rest : Bytes} (hs : Plain s)
    (h : StringTail (s ++ 34 :: text) value rest) : value = s ∧ rest = text := by
  obtain ⟨cs, hcs, rfl⟩ := hs
  induction cs generalizing value with
  | nil =>
      generalize htext : [].flatMap String.utf8EncodeChar ++ 34 :: text = text' at h
      cases h with
      | close => exact ⟨rfl, (List.cons.inj htext).2.symm⟩
      | char hc _ => exact absurd (eq_of_utf8_append (by decide) htext.symm).2.1 hc.2.1
      | escape _ _ => exact absurd (List.cons.inj htext).1 (by decide)
      | unicode _ _ _ => exact absurd (List.cons.inj htext).1 (by decide)
      | pair _ _ _ _ _ _ _ => exact absurd (List.cons.inj htext).1 (by decide)
  | cons c cs ih =>
      obtain ⟨hc, hrest⟩ := List.forall_mem_cons.1 hcs
      rw [List.flatMap_cons, List.append_assoc] at h
      obtain ⟨value', rfl, h'⟩ := h.of_char hc
      obtain ⟨rfl, rfl⟩ := ih hrest h'
      exact ⟨rfl, rfl⟩

/-- The text of a name: bytes of ASCII that stand for themselves. -/
def IsName (s : Bytes) : Prop := ∀ b ∈ s, b.toNat < 128 ∧ 0x20 ≤ b.toNat ∧ b ≠ 34 ∧ b ≠ 92

instance (s : Bytes) : Decidable (IsName s) := inferInstanceAs (Decidable (∀ b ∈ s, _))

theorem IsName.plain {name : Bytes} (h : IsName name) : Plain name := by
  induction name with
  | nil => exact .nil
  | cons b name ih =>
      obtain ⟨⟨hascii, hlow, hquote, hslash⟩, hname⟩ := List.forall_mem_cons.1 h
      have hcode : (Char.ofUInt8 b).toNat = b.toNat := UInt8.toNat_toUInt32 b
      have henc : String.utf8EncodeChar (Char.ofUInt8 b) = [b] := by
        rw [utf8_of_lt (by omega), hcode, UInt8.ofNat_toNat]
      have hchar : Unescaped (Char.ofUInt8 b) := by
        unfold Unescaped
        rw [hcode]
        exact ⟨hlow, fun h => hquote (UInt8.toNat_inj.1 h), fun h => hslash (UInt8.toNat_inj.1 h)⟩
      have hcons := Plain.cons hchar (ih hname)
      rwa [henc] at hcons

theorem IsName.append {s t : Bytes} (hs : IsName s) (ht : IsName t) : IsName (s ++ t) :=
  List.forall_mem_append.2 ⟨hs, ht⟩

/-! ## Members -/

/-- A member takes at least its two strings, their four quotation marks and the colon. -/
theorem Member.length {text name value rest : Bytes} (h : Member text name value rest) :
    name.length + value.length + rest.length + 5 ≤ text.length := by
  obtain ⟨hname, hcolon, hquote, hvalue⟩ := h
  obtain ⟨used, rfl, hused, -⟩ := hname.length
  obtain ⟨used', rfl, hused', -⟩ := hvalue.length
  have hafter := length_of_skip hcolon
  have hstart := length_of_skip hquote
  simp only [List.length_cons, List.length_append] at hstart ⊢
  omega

/-- What members take at least: what their strings stand for and six bytes each. -/
def membersSize : List (Bytes × Bytes) → ℕ
  | [] => 0
  | m :: ms => m.1.length + m.2.length + 6 + membersSize ms

theorem Members.length {text rest : Bytes} {members : List (Bytes × Bytes)}
    (h : Members text members rest) : membersSize members + rest.length ≤ text.length := by
  induction h with
  | last hmember hbrace =>
      have hlen := hmember.length
      have hafter := length_of_skip hbrace
      simp only [membersSize]
      omega
  | @cons text name value after next rest members hmember hcomma _ ih =>
      have hlen := hmember.length
      have hafter := length_of_skip hcomma
      have hnext := length_skip_le next
      simp only [membersSize]
      omega

/-! ## Objects that are printed -/

/-- A member as `"%s": "%s"` prints it. -/
def memberText (name value rest : Bytes) : Bytes :=
  34 :: (name ++ 34 :: 58 :: 32 :: 34 :: (value ++ 34 :: rest))

/-- The members of an object and its closing brace. -/
def membersText : List (Bytes × Bytes) → Bytes
  | [] => [125]
  | [m] => memberText m.1 m.2 [125]
  | m :: m' :: ms => memberText m.1 m.2 (44 :: membersText (m' :: ms))

def objectText (members : List (Bytes × Bytes)) : Bytes := 123 :: membersText members

theorem skip_membersText (members : List (Bytes × Bytes)) :
    skip (membersText members) = membersText members := by
  match members with
  | [] => rfl
  | [m] => exact skip_cons rfl _
  | m :: m' :: ms => exact skip_cons rfl _

theorem Member.written {name value : Bytes} (hname : Plain name) (hvalue : Plain value)
    (rest : Bytes) : Member (memberText name value rest) name value rest :=
  .mk (hname.stringTail _) (skip_cons rfl _) rfl (hvalue.stringTail rest)

/-- A printed member is read as one of its name, if that is plain. -/
theorem Member.of_written {name value rest name' value' rest' : Bytes} (hname : Plain name)
    (h : Member (memberText name value rest) name' value' rest') :
    name' = name ∧ StringTail (value ++ 34 :: rest) value' rest' := by
  unfold memberText at h
  cases h with
  | mk hread hcolon hquote hvalue =>
      obtain ⟨rfl, rfl⟩ := hread.of_plain hname
      obtain rfl := (List.cons.inj hcolon).2
      obtain rfl := (List.cons.inj hquote).2
      exact ⟨rfl, hvalue⟩

/-- Both strings of the member are plain. -/
def PlainMember (m : Bytes × Bytes) : Prop := Plain m.1 ∧ Plain m.2

/-- A plain member is read, and then the ones behind it. -/
theorem Members.of_plain_cons {m m' : Bytes × Bytes} {ms members : List (Bytes × Bytes)} {rest : Bytes}
    (hm : PlainMember m) (h : Members (membersText (m :: m' :: ms)) members rest) :
    ∃ members', members = m :: members' ∧ Members (membersText (m' :: ms)) members' rest := by
  unfold membersText at h
  cases h with
  | last hmember hbrace =>
      obtain ⟨-, hvalue⟩ := hmember.of_written hm.1
      obtain ⟨-, rfl⟩ := hvalue.of_plain hm.2
      exact absurd (List.cons.inj hbrace).1 (by decide)
  | @cons _ name value after next _ members' hmember hcomma hrest =>
      obtain ⟨rfl, hvalue⟩ := hmember.of_written hm.1
      obtain ⟨rfl, rfl⟩ := hvalue.of_plain hm.2
      obtain rfl := (List.cons.inj hcomma).2
      rw [skip_membersText] at hrest
      exact ⟨members', rfl, hrest⟩

theorem Members.of_plain_last {m : Bytes × Bytes} {members : List (Bytes × Bytes)} {rest : Bytes}
    (hm : PlainMember m) (h : Members (membersText [m]) members rest) :
    members = [m] ∧ rest = [] := by
  unfold membersText at h
  cases h with
  | last hmember hbrace =>
      obtain ⟨rfl, hvalue⟩ := hmember.of_written hm.1
      obtain ⟨rfl, rfl⟩ := hvalue.of_plain hm.2
      exact ⟨rfl, (List.cons.inj hbrace).2.symm⟩
  | cons hmember hcomma _ =>
      obtain ⟨-, hvalue⟩ := hmember.of_written hm.1
      obtain ⟨-, rfl⟩ := hvalue.of_plain hm.2
      exact absurd (List.cons.inj hcomma).1 (by decide)

theorem Members.of_plain {m : Bytes × Bytes} {ms members : List (Bytes × Bytes)} {rest : Bytes}
    (hplain : ∀ x ∈ m :: ms, PlainMember x) (h : Members (membersText (m :: ms)) members rest) :
    members = m :: ms ∧ rest = [] := by
  induction ms generalizing m members with
  | nil => exact h.of_plain_last (hplain m List.mem_cons_self)
  | cons m' ms ih =>
      obtain ⟨hm, hms⟩ := List.forall_mem_cons.1 hplain
      obtain ⟨members', rfl, hrest⟩ := h.of_plain_cons hm
      obtain ⟨rfl, hnil⟩ := ih hms hrest
      exact ⟨rfl, hnil⟩

theorem Members.written {m : Bytes × Bytes} {ms : List (Bytes × Bytes)}
    (hplain : ∀ x ∈ m :: ms, PlainMember x) : Members (membersText (m :: ms)) (m :: ms) [] := by
  induction ms generalizing m with
  | nil =>
      obtain ⟨hm, -⟩ := List.forall_mem_cons.1 hplain
      exact .last (.written hm.1 hm.2 _) rfl
  | cons m' ms ih =>
      obtain ⟨hm, hms⟩ := List.forall_mem_cons.1 hplain
      have hrest := ih hms
      rw [← skip_membersText] at hrest
      exact .cons (.written hm.1 hm.2 _) (skip_cons rfl _) hrest

/-- **The round trip of plain strings.** The text printed from them is that object and no other. -/
theorem document_objectText {m : Bytes × Bytes} {ms : List (Bytes × Bytes)}
    (hplain : ∀ x ∈ m :: ms, PlainMember x) (members : List (Bytes × Bytes)) :
    Document (objectText (m :: ms)) members ↔ members = m :: ms := by
  have hopen : skip (objectText (m :: ms)) = 123 :: membersText (m :: ms) := skip_cons rfl _
  constructor
  · intro h
    cases h with
    | empty hbrace hclose _ =>
        obtain rfl := (List.cons.inj (hopen.symm.trans hbrace)).2
        rw [skip_membersText] at hclose
        cases ms with
        | nil => exact absurd (List.cons.inj hclose).1 (by decide)
        | cons m' ms => exact absurd (List.cons.inj hclose).1 (by decide)
    | object hbrace hmembers _ =>
        obtain rfl := (List.cons.inj (hopen.symm.trans hbrace)).2
        rw [skip_membersText] at hmembers
        exact (hmembers.of_plain hplain).1
  · rintro rfl
    have hmembers := Members.written hplain
    rw [← skip_membersText] at hmembers
    exact .object hopen hmembers rfl

/-- The first member that is read has the first name that was printed. -/
theorem Members.head_name {m : Bytes × Bytes} {ms members : List (Bytes × Bytes)} {rest : Bytes}
    (hname : Plain m.1) (h : Members (membersText (m :: ms)) members rest) :
    ∃ value members', members = (m.1, value) :: members' := by
  have hread {name value after : Bytes} (hmember : Member (membersText (m :: ms)) name value after) :
      name = m.1 := by
    cases ms with
    | nil => exact (hmember.of_written hname).1
    | cons m' ms => exact (hmember.of_written hname).1
  cases h with
  | last hmember _ => exact ⟨_, [], by rw [hread hmember]⟩
  | cons hmember _ _ => exact ⟨_, _, by rw [hread hmember]⟩

/-- The last member has no room for an escape. -/
theorem Members.plain_of_last {name value rest : Bytes} (hname : Plain name)
    (h : Members (membersText [(name, value)]) [(name, value)] rest) : Plain value := by
  cases h with
  | last hmember hbrace =>
      obtain ⟨-, hvalue⟩ := hmember.of_written hname
      obtain ⟨used, htext, hle, heq⟩ := hvalue.length
      have hafter := length_of_skip hbrace
      have htotal := congrArg List.length htext
      simp only [List.length_append, List.length_cons, List.length_nil] at htotal
      exact (heq (by omega)).2
  | cons _ _ hnone => cases hnone

/-- **No escape fits in.** Where the last two members of an object are read back as they were printed,
their values are plain: an escape in the first one would take the closing quotation mark with it. -/
theorem Members.plain_of_two {name value name' value' rest : Bytes} (hname : Plain name)
    (hname' : Plain name')
    (h : Members (membersText [(name, value), (name', value')]) [(name, value), (name', value')] rest) :
    Plain value ∧ Plain value' := by
  cases h with
  | @cons _ _ _ after next _ _ hmember hcomma hrest =>
      obtain ⟨-, hvalue⟩ := hmember.of_written hname
      obtain ⟨used, htext, hle, heq⟩ := hvalue.length
      have hlen := hrest.length
      have hnext := length_skip_le next
      have hafter := length_of_skip hcomma
      have htotal := congrArg List.length htext
      simp only [membersText, memberText, List.length_append, List.length_cons, List.length_nil,
        membersSize] at htotal hlen
      by_cases hsame : used.length = value.length
      · obtain ⟨rfl, hplain⟩ := heq hsame
        obtain rfl := (List.cons.inj (List.append_cancel_left htext)).2
        obtain rfl := (List.cons.inj hcomma).2
        rw [skip_membersText] at hrest
        exact ⟨hplain, hrest.plain_of_last hname'⟩
      -- one byte more is the quotation mark behind the value, and what follows that is the comma
      · have hone : used.length = value.length + 1 := by omega
        have hleft : (value ++ 34 :: 44 :: membersText [(name', value')])[value.length + 1]? =
            some 44 := by
          rw [List.getElem?_append_right (Nat.le_add_right _ 1), Nat.add_sub_cancel_left]
          rfl
        have hright : (used ++ 34 :: after)[value.length + 1]? = some 34 := by
          rw [← hone, List.getElem?_append_right (Nat.le_refl _), Nat.sub_self]
          rfl
        rw [htext, hright] at hleft
        exact absurd hleft (by decide)

end JsonText
