/-
# The key of the initial attach APN (`ril.cpp`)

`isInitialAttachAPN` compares an APN with the one that the modem attached with.  That one is
kept by `getIaCache` as a key, and a key of the same form is composed from the arguments.

* `apnParameter` : the key that is composed, in an array of fixed size;
* `initialAttachApn_recognised_iff` : when the APN is recognised as it should be.

`getIaCache` is not part of the repository.  It puts a string into an array of the caller.
-/
import Ct07.Lib.CString
import Ct07.Radio.PayloadMemory

open CheckedMemory CString

namespace Radio

open Payload (nul)

/-! ## Strings -/

/-- A string that a C program is handed; it does not hold the byte that ends it. -/
structure CText where
  text : Text
  nul_not_mem : nul ∉ text

/-- A string that is handed over in an array of `size` bytes. -/
structure CTextIn (size : ℕ) extends CText where
  length_lt : text.length < size

/-- `PROPERTY_VALUE_MAX` -/
def propertyValueMax : ℕ := 92

/-- The value of a system property, empty when it is not set. -/
abbrev PropertyValue := CTextIn propertyValueMax

theorem nul_not_mem_toDigits (n : ℕ) : nul ∉ Nat.toDigits 10 n := by
  intro h
  exact absurd (Nat.isDigit_of_mem_toDigits (by decide) (by decide) h) (by decide)

/-- What `%d` prints holds no zero byte. -/
theorem nul_not_mem_toString (n : ℤ) : nul ∉ (toString n).toList := by
  cases n with
  | ofNat n =>
      show nul ∉ (Nat.repr n).toList
      rw [Nat.toList_repr]
      exact nul_not_mem_toDigits n
  | negSucc n =>
      show nul ∉ ("-" ++ Nat.repr (n + 1)).toList
      rw [String.toList_append, Nat.toList_repr, List.mem_append, not_or]
      exact ⟨by decide, nul_not_mem_toDigits (n + 1)⟩

namespace InitialAttach

/-! ## The code -/

/-- The size of `iaProperty` and of `apnParameter`. -/
def sizeofKey : ℕ := 2 * propertyValueMax

/-- The arguments of `isInitialAttachAPN`; the password may be a null pointer. -/
structure Arguments where
  requestedApn : CText
  protocol : CText
  authType : ℤ
  username : CText
  password : Option CText

/-- `password != NULL && strlen(password) != 0` -/
def Arguments.passwordSet (x : Arguments) : Bool :=
  match x.password with
  | none => false
  | some password => password.text ≠ []

/-- The APN that is always recognised. -/
def ctnet : Text := "ctnet".toList

/-- An array of zeros. -/
def zeros (size : ℕ) : Text := List.replicate size nul

/-- `"%s,%s,%d,%s,0,%s"` with the arguments behind the first one. -/
def format (iccid : Text) (x : Arguments) : Text :=
  iccid ++ ',' :: x.protocol.text ++ ',' :: (toString x.authType).toList ++
    ',' :: x.username.text ++ ',' :: '0' :: ',' :: x.requestedApn.text

/-- The array `apnParameter`; `iccid` is the value of `PROPERTY_ICCID_SIM[0]`. -/
def apnParameter (iccid : PropertyValue) (x : Arguments) : Except Fault Text :=
  if x.passwordSet then do
    -- `printf`, which is given the array as its format
    let _ ← string nul (zeros sizeofKey)
    return zeros sizeofKey
  else do
    let iccid ← putString nul (zeros propertyValueMax) iccid.text
    putString nul (zeros sizeofKey) (format (← string nul iccid) x)

/-- `isInitialAttachAPN`; `iaCache` is what `getIaCache` puts into the array. -/
def isInitialAttachAPN (iaCache : CTextIn sizeofKey) (iccid : PropertyValue) (x : Arguments) :
    Except Fault ℤ := do
  let iaProperty ← putString nul (zeros sizeofKey) iaCache.text
  let key ← string nul iaProperty
  if key.length = 0 then
    return 0
  else
    let composed ← string nul (← apnParameter iccid x)
    return if composed = key ∨ x.requestedApn.text = ctnet then 1 else 0

/-! ## What is composed -/

variable (iaCache : CTextIn sizeofKey) (iccid : PropertyValue) (x : Arguments)

/-- The key of the arguments.  The ICCID is not recorded when a password is set. -/
def composed : Text := format (if x.passwordSet then [] else iccid.text) x

theorem nul_not_mem_format {text : Text} (h : nul ∉ text) : nul ∉ format text x := by
  have hcomma : nul ≠ ',' := by decide
  have hzero : nul ≠ '0' := by decide
  simp only [format, List.mem_append, List.mem_cons, h, x.protocol.nul_not_mem,
    nul_not_mem_toString, x.username.nul_not_mem, x.requestedApn.nul_not_mem, hcomma, hzero,
    or_self, not_false_iff]

theorem length_zeros (size : ℕ) : (zeros size).length = size := List.length_replicate

/-- An array that is handed a string holds it. -/
theorem string_handed {size : ℕ} (s : CTextIn size) :
    ∃ cells, putString nul (zeros size) s.text = .ok cells ∧ string nul cells = .ok s.text := by
  have hfits : s.text.length < (zeros size).length := by
    rw [length_zeros]
    exact s.length_lt
  exact string_putString hfits s.nul_not_mem

/-- Without a password the key is composed as it should be, as far as the array goes. -/
theorem apnParameter_unset (hset : x.passwordSet = false) :
    apnParameter iccid x = putString nul (zeros sizeofKey) (composed iccid x) := by
  obtain ⟨cells, hcells, hstring⟩ := string_handed iccid
  rw [apnParameter, hset, composed, hset]
  show (putString nul (zeros propertyValueMax) iccid.text >>= fun iccid =>
    string nul iccid >>= fun iccid => putString nul (zeros sizeofKey) (format iccid x)) = _
  rw [hcells, ok_bind, hstring, ok_bind, if_neg Bool.false_ne_true]

theorem apnParameter_fits (hset : x.passwordSet = false)
    (hfits : (composed iccid x).length < sizeofKey) :
    ∃ cells, apnParameter iccid x = .ok cells ∧ string nul cells = .ok (composed iccid x) := by
  rw [apnParameter_unset iccid x hset]
  have hnul : nul ∉ composed iccid x := by
    rw [composed, hset]
    exact nul_not_mem_format x iccid.nul_not_mem
  exact string_handed ⟨⟨composed iccid x, hnul⟩, hfits⟩

theorem apnParameter_overrun (hset : x.passwordSet = false)
    (hlong : ¬ (composed iccid x).length < sizeofKey) :
    apnParameter iccid x = .error .write := by
  rw [apnParameter_unset iccid x hset]
  apply putString_overrun
  rwa [length_zeros]

/-- With a password nothing is composed. -/
theorem apnParameter_set (hset : x.passwordSet = true) :
    ∃ cells, apnParameter iccid x = .ok cells ∧ string nul cells = .ok [] := by
  refine ⟨zeros sizeofKey, ?_, rfl⟩
  rw [apnParameter, hset]
  rfl

/-! ## What is answered -/

/-- What the function is there to tell. -/
def IsInitialAttach : Prop :=
  iaCache.text ≠ [] ∧
    (x.requestedApn.text = ctnet ∨ iaCache.text = composed iccid x)

/-- The function stays within its arrays and tells the initial attach APN from others. -/
def Recognised : Prop :=
  ∃ result, isInitialAttachAPN iaCache iccid x = .ok result ∧
    (result = 1 ↔ IsInitialAttach iaCache iccid x)

theorem isInitialAttachAPN_eq :
    isInitialAttachAPN iaCache iccid x =
      if iaCache.text = [] then .ok 0
      else apnParameter iccid x >>= fun cells => string nul cells >>= fun composed =>
        .ok (if composed = iaCache.text ∨ x.requestedApn.text = ctnet then 1 else 0) := by
  obtain ⟨cells, hcells, hstring⟩ := string_handed iaCache
  rw [isInitialAttachAPN, hcells, ok_bind, hstring, ok_bind]
  by_cases hkey : iaCache.text = []
  · rw [if_pos hkey, if_pos (List.length_eq_zero_iff.2 hkey)]
    rfl
  · rw [if_neg hkey, if_neg fun h => hkey (List.length_eq_zero_iff.1 h)]
    rfl

/-- Without a key nothing is recognised. -/
theorem recognised_nil (hkey : iaCache.text = []) : Recognised iaCache iccid x := by
  refine ⟨0, ?_, ?_⟩
  · rw [isInitialAttachAPN_eq, if_pos hkey]
  · exact iff_of_false (by decide) fun h => h.1 hkey

theorem ite_eq_one_iff {p : Prop} [Decidable p] : (if p then (1 : ℤ) else 0) = 1 ↔ p := by
  by_cases h : p
  · rw [if_pos h]
    exact iff_of_true rfl h
  · rw [if_neg h]
    exact iff_of_false (by decide) h

/-- The answer, given what stands in the array. -/
theorem recognised_iff_of_string {cells s : Text} (hkey : iaCache.text ≠ [])
    (hcells : apnParameter iccid x = .ok cells) (hstring : string nul cells = .ok s) :
    Recognised iaCache iccid x ↔
      (s = iaCache.text ∨ x.requestedApn.text = ctnet ↔
        IsInitialAttach iaCache iccid x) := by
  have hresult : isInitialAttachAPN iaCache iccid x =
      .ok (if s = iaCache.text ∨ x.requestedApn.text = ctnet then 1 else 0) := by
    rw [isInitialAttachAPN_eq, if_neg hkey, hcells, ok_bind, hstring, ok_bind]
  constructor
  · rintro ⟨result, heq, hiff⟩
    rw [hresult, Except.ok.injEq] at heq
    subst heq
    rw [← hiff, ite_eq_one_iff]
  · intro h
    refine ⟨_, hresult, ?_⟩
    rw [← h, ite_eq_one_iff]

/-- **The initial attach APN.**  It is told from others exactly when there is no key, or no
password and the key that is composed fits its array, or a password and the answer does not
depend on that key. -/
theorem initialAttachApn_recognised_iff :
    Recognised iaCache iccid x ↔
      iaCache.text = [] ∨
      (x.passwordSet = false ∧ (composed iccid x).length < sizeofKey) ∨
      (x.passwordSet = true ∧
        (x.requestedApn.text = ctnet ∨ iaCache.text ≠ composed iccid x)) := by
  by_cases hkey : iaCache.text = []
  · exact iff_of_true (recognised_nil iaCache iccid x hkey) (.inl hkey)
  · cases hset : x.passwordSet with
    | false =>
        by_cases hfits : (composed iccid x).length < sizeofKey
        · obtain ⟨cells, hcells, hstring⟩ := apnParameter_fits iccid x hset hfits
          apply iff_of_true
          · rw [recognised_iff_of_string iaCache iccid x hkey hcells hstring, IsInitialAttach,
              eq_comm, or_comm, and_iff_right hkey]
          · exact .inr (.inl ⟨rfl, hfits⟩)
        · apply iff_of_false
          · rintro ⟨result, hresult, -⟩
            rw [isInitialAttachAPN_eq, if_neg hkey, apnParameter_overrun iccid x hset hfits,
              error_bind] at hresult
            exact absurd hresult (by simp)
          · simp [hkey, hfits]
    | true =>
        obtain ⟨cells, hcells, hstring⟩ := apnParameter_set iccid x hset
        have hempty : ¬ [] = iaCache.text := fun h => hkey h.symm
        rw [recognised_iff_of_string iaCache iccid x hkey hcells hstring, IsInitialAttach]
        by_cases hctnet : x.requestedApn.text = ctnet
        · simp [hkey, hctnet]
        · simp [hkey, hempty, hctnet]

/-- The arguments of an APN with a password. -/
def withPassword : Arguments where
  requestedApn := ⟨"wap".toList, by decide⟩
  protocol := ⟨"IP".toList, by decide⟩
  authType := 1
  username := ⟨"user".toList, by decide⟩
  password := some ⟨"secret".toList, by decide⟩

/-- The modem attached with this APN, and it is not recognised. -/
theorem withPassword_not_recognised :
    ¬ ∀ (iaCache : CTextIn sizeofKey) (iccid : PropertyValue) (x : Arguments),
      Recognised iaCache iccid x := by
  intro h
  obtain ⟨result, hresult, hiff⟩ :=
    h ⟨⟨",IP,1,user,0,wap".toList, by decide⟩, by decide⟩ ⟨⟨[], by decide⟩, by decide⟩ withPassword
  have hzero : isInitialAttachAPN ⟨⟨",IP,1,user,0,wap".toList, by decide⟩, by decide⟩
      ⟨⟨[], by decide⟩, by decide⟩ withPassword = .ok 0 := by decide +kernel
  rw [hzero, Except.ok.injEq] at hresult
  subst hresult
  exact absurd (hiff.2 ⟨by decide, .inr (by decide)⟩) (by decide)

end InitialAttach

end Radio
