/-
# Camera parameters (`CameraDevice.cpp`)

Parameters are a string of segments between semicolons, most of them a key and a value with an
equals sign between them.  `findParameter` scans the string for a key without taking it apart.

* `findParameter` : the scan, from the segment at `p` on;
* `entry` : a segment as key and value;
* `findParameter_eq` : the scan finds the first segment with the key.
-/
import Ct07.Lib.CString

open CString

namespace Camera.Parameters

/-- A string, without its end. -/
abbrev Text := List Char

/-! ## Model -/

/-- The value that is returned for the segment at `p`, if its key is the one that is looked for:
`stop` is the next semicolon and `eq` the next equals sign, as distances from `p`. -/
def valueAt (p key : Text) (stop eq : Option ℕ) : Option Text :=
  match eq with
  | none => none
  | some eq =>
    if stop.all (eq < ·) ∧ eq = key.length ∧ p.take key.length = key then
      match stop with
      | some stop => some ((p.drop (eq + 1)).take (stop - eq - 1))
      | none => some (p.drop (eq + 1))
    else none

/-- `findParameter`, the loop. -/
def findParameter (p key : Text) : Text :=
  if p = [] then []
  else match valueAt p key (strchr p ';') (strchr p '=') with
    | some value => value
    | none =>
      match strchr p ';' with
      | some stop => findParameter (p.drop (stop + 1)) key
      | none => []
termination_by p.length
decreasing_by
  rw [List.length_drop]
  have := List.length_pos_iff.2 ‹p ≠ []›
  omega

/-! ## Segments -/

/-- The text before the first equals sign of a segment, and the text behind it. -/
def entry : Text → Option (Text × Text)
  | [] => none
  | c :: segment =>
    if c = '=' then some ([], segment) else (entry segment).map fun e => (c :: e.1, e.2)

/-- The value of a segment whose key is `key`. -/
def valueOf (key segment : Text) : Option Text :=
  (entry segment).bind fun e => if e.1 = key then some e.2 else none

/-- The value of the first segment with the key, nothing if there is none. -/
def lookup (params key : Text) : Text := ((params.splitOn ';').findSome? (valueOf key)).getD []

/-- A key that another one begins with. -/
example : lookup "video-size-values=1;x;video-size=320x240;a=b".toList "video-size".toList =
    "320x240".toList := by decide

theorem entry_append_cons {before : Text} (after : Text) (h : '=' ∉ before) :
    entry (before ++ '=' :: after) = some (before, after) := by
  induction before with
  | nil => rfl
  | cons c before ih =>
      have hc : c ≠ '=' := fun heq => h (heq ▸ List.mem_cons_self)
      rw [List.cons_append, entry, if_neg hc, ih fun hmem => h (List.mem_cons_of_mem c hmem)]
      rfl

theorem entry_eq_none {segment : Text} (h : '=' ∉ segment) : entry segment = none := by
  induction segment with
  | nil => rfl
  | cons c segment ih =>
      have hc : c ≠ '=' := fun heq => h (heq ▸ List.mem_cons_self)
      rw [entry, if_neg hc, ih fun hmem => h (List.mem_cons_of_mem c hmem)]
      rfl

theorem valueOf_append_cons {before : Text} (key after : Text) (h : '=' ∉ before) :
    valueOf key (before ++ '=' :: after) = if before = key then some after else none := by
  rw [valueOf, entry_append_cons after h, Option.bind_some]

theorem valueOf_eq_none (key : Text) {segment : Text} (h : '=' ∉ segment) :
    valueOf key segment = none := by
  rw [valueOf, entry_eq_none h, Option.bind_none]

/-- A text with an equals sign, cut at the first. -/
theorem exists_first_eq {segment : Text} (h : '=' ∈ segment) :
    ∃ before after, '=' ∉ before ∧ segment = before ++ '=' :: after := by
  obtain ⟨before, after, rfl, hbefore⟩ := List.eq_append_cons_of_mem h
  exact ⟨before, after, hbefore, rfl⟩

/-! ## The comparison with one segment -/

/-- The first characters are those of the key, and no more. -/
theorem take_eq_key_iff {before rest key : Text} :
    before.length = key.length ∧ (before ++ rest).take key.length = key ↔ before = key := by
  constructor
  · rintro ⟨hlen, htake⟩
    rwa [← hlen, List.take_left] at htake
  · rintro rfl
    exact ⟨rfl, List.take_left⟩

/-- The last segment. -/
theorem valueAt_last {segment : Text} (key : Text) (hstop : ';' ∉ segment) :
    valueAt segment key (strchr segment ';') (strchr segment '=') = valueOf key segment := by
  rw [strchr_eq_none hstop]
  by_cases heq : '=' ∈ segment
  · obtain ⟨before, after, hbefore, rfl⟩ := exists_first_eq heq
    rw [strchr_append_cons after hbefore, valueOf_append_cons key after hbefore]
    simp only [valueAt, Option.all_none, true_and, take_eq_key_iff]
    rw [drop_behind]
  · rw [strchr_eq_none heq, valueOf_eq_none key heq, valueAt]

/-- A segment with others behind it: their equals signs are not taken for its own. -/
theorem valueAt_first {segment : Text} (key rest : Text) (hstop : ';' ∉ segment) :
    valueAt (segment ++ ';' :: rest) key (strchr (segment ++ ';' :: rest) ';')
      (strchr (segment ++ ';' :: rest) '=') = valueOf key segment := by
  rw [strchr_append_cons rest hstop]
  by_cases heq : '=' ∈ segment
  · obtain ⟨before, after, hbefore, rfl⟩ := exists_first_eq heq
    have hshape : before ++ '=' :: after ++ ';' :: rest =
        before ++ '=' :: (after ++ ';' :: rest) := by
      simp
    have hinside : before.length < (before ++ '=' :: after).length := by simp
    have hvalue : ((before ++ '=' :: (after ++ ';' :: rest)).drop (before.length + 1)).take
        ((before ++ '=' :: after).length - before.length - 1) = after := by
      have hlen : (before ++ '=' :: after).length - before.length - 1 = after.length := by
        rw [List.length_append, List.length_cons]
        omega
      rw [drop_behind, hlen, List.take_left]
    rw [hshape, strchr_append_cons _ hbefore, valueOf_append_cons key after hbefore]
    simp only [valueAt, Option.all_some, decide_eq_true hinside, true_and, take_eq_key_iff, hvalue]
  · rw [valueOf_eq_none key heq]
    cases hfind : strchr (segment ++ ';' :: rest) '=' with
    | none => rfl
    | some eq =>
        have hbehind : ¬ eq < segment.length := fun hlt => by
          have hat := strchr_getElem? hfind
          rw [List.getElem?_append_left hlt] at hat
          exact heq (List.mem_of_getElem? hat)
        simp [valueAt, hbehind]

/-! ## Main result -/

/-- **The value of the first segment with the key.** -/
theorem findParameter_eq (params key : Text) : findParameter params key = lookup params key := by
  induction hn : params.length using Nat.strongRecOn generalizing params with
  | ind n ih =>
      subst hn
      rw [findParameter, lookup]
      obtain ⟨hstop, hsplit⟩ | ⟨segment, rest, hstop, rfl, hsplit⟩ := splitOn_cases ';' params
      · rw [valueAt_last key hstop, strchr_eq_none hstop, hsplit, List.findSome?_singleton]
        split
        · rename_i hnil
          rw [hnil]
          rfl
        · cases valueOf key params <;> rfl
      · rw [if_neg (by simp), valueAt_first key rest hstop, strchr_append_cons rest hstop, hsplit,
          List.findSome?_cons]
        cases valueOf key segment with
        | some value => rfl
        | none =>
            show findParameter ((segment ++ ';' :: rest).drop (segment.length + 1)) key = _
            rw [drop_behind]
            exact ih rest.length (by rw [List.length_append, List.length_cons]; omega) rest rfl

end Camera.Parameters
