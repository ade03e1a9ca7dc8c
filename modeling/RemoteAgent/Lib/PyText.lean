import Mathlib.Data.List.DropRight
import RemoteAgent.Lib.JsonText

/-!
# Python's view of decoded values

What `str`, truth testing, `str.strip`, `str.split`, `str.lower`, `uuid.UUID`,
url-safe base64, the comparisons and dictionary keys do to a decoded JSON
value.

Two things are left open.  `FloatOps` carries the IEEE 754 meaning of a float's
numeral, on which no arithmetic is done here.  `asciiLower` lower-cases only the
characters whose lower-case form is a single ASCII letter; every other character
lower-cases to a text with a non-ASCII character in it, so an ASCII pattern
rejects the text either way.
-/

open Wire

namespace Py

/-! ## Floats -/

/-- The float operations a program applies to decoded numerals. -/
structure FloatOps where
  /-- `repr(f)`. -/
  repr : FloatText → String
  isZero : FloatText → Bool
  /-- `f == i`. -/
  eqInt : FloatText → Int → Bool
  /-- `f < i`. -/
  ltInt : FloatText → Int → Bool
  /-- `i < f`. -/
  intLt : Int → FloatText → Bool
  lt : FloatText → FloatText → Bool
  /-- `int(f)`, where it is defined. -/
  trunc : FloatText → Option Int

/-! ## Values -/

section Values

variable (floats : FloatOps)

/-- `bool(value)`. -/
def truthy : Json → Bool
  | .null => false
  | .bool b => b
  | .int i => decide (i ≠ 0)
  | .float f => !floats.isZero f
  | .str s => decide (s ≠ "")
  | .arr xs => !xs.isEmpty
  | .obj fs => !fs.isEmpty

/-- `str(value)`; `container` is `repr` of a list or a dictionary. -/
def str (container : Json → String) : Json → String
  | .null => "None"
  | .bool true => "True"
  | .bool false => "False"
  | .int i => String.ofList (intText i)
  | .float f => floats.repr f
  | .str s => s
  | .arr xs => container (.arr xs)
  | .obj fs => container (.obj fs)

/-- `str(value or "")`. -/
def strOrEmpty (container : Json → String) (j : Json) : String :=
  if truthy floats j then str floats container j else ""

/-- `value == i` for an integer `i`. -/
def eqInt (j : Json) (i : Int) : Bool :=
  match j with
  | .bool b => decide ((if b then 1 else 0) = i)
  | .int j => decide (j = i)
  | .float f => floats.eqInt f i
  | _ => false

/-- `value == text`. -/
def eqStr (j : Json) (text : String) : Bool :=
  match j with
  | .str s => decide (s = text)
  | _ => false

theorem eqStr_iff {j : Json} {text : String} : eqStr j text = true ↔ j = .str text := by
  unfold eqStr
  split
  · rw [decide_eq_true_eq, Json.str.injEq]
  · rename_i other
    constructor
    · exact fun no => nomatch no
    · exact fun same => absurd same (other text)

/-- The elements of a list are these texts. -/
def eqElems : List Json → List String → Bool
  | [], [] => true
  | x :: xs, t :: ts => eqStr x t && eqElems xs ts
  | _, _ => false

/-- `value == texts` for a list of texts. -/
def eqTexts (j : Json) (texts : List String) : Bool :=
  match j with
  | .arr xs => eqElems xs texts
  | _ => false

theorem eqElems_iff {xs : List Json} {texts : List String} :
    eqElems xs texts = true ↔ xs = texts.map .str := by
  induction xs generalizing texts with
  | nil => cases texts <;> simp only [eqElems, List.map_nil, List.map_cons, reduceCtorEq]
  | cons x xs ih =>
      cases texts with
      | nil => simp only [eqElems, List.map_nil, reduceCtorEq]
      | cons t ts =>
          rw [eqElems, Bool.and_eq_true, eqStr_iff, ih, List.map_cons, List.cons.injEq]

theorem eqTexts_iff {j : Json} {texts : List String} :
    eqTexts j texts = true ↔ j = .arr (texts.map .str) := by
  cases j with
  | arr xs => rw [Json.arr.injEq]; exact eqElems_iff
  | _ => simp only [eqTexts, reduceCtorEq]

/-- The integer that a boolean or an integer is. -/
def intLike : Json → Option Int
  | .bool b => some (if b then 1 else 0)
  | .int i => some i
  | _ => none

/-- `a < b`; `none` stands for the `TypeError`. -/
def lt (a b : Json) : Option Bool :=
  match a, b with
  | .float f, .float g => some (floats.lt f g)
  | .str s, .str t => some (decide (s < t))
  | .float f, b => (intLike b).map (floats.ltInt f)
  | a, .float g => (intLike a).map fun i => floats.intLt i g
  | a, b =>
      match intLike a, intLike b with
      | some i, some j => some (decide (i < j))
      | _, _ => none

/-- `max(a, b)`; `none` stands for the `TypeError`. -/
def max (a b : Json) : Option Json :=
  (lt floats a b).map fun below => if below then b else a

end Values

/-! ## Dictionary keys -/

/-- The hashable values; equal keys are one key of a dictionary. -/
inductive Key where
  | none
  | int (i : Int)
  | float (f : FloatText)
  | str (s : String)
deriving DecidableEq

/-- The key that a value is: a boolean is the integer it equals, and so is an integral
float.  `none` stands for the `TypeError` of an unhashable value. -/
def key? (floats : FloatOps) : Json → Option Key
  | .null => some .none
  | .bool b => some (.int (if b then 1 else 0))
  | .int i => some (.int i)
  | .float f =>
      match floats.trunc f with
      | some i => if floats.eqInt f i then some (.int i) else some (.float f)
      | none => some (.float f)
  | .str s => some (.str s)
  | .arr _ | .obj _ => none

/-! ## Text -/

/-- `str.isspace` of one character. -/
def isSpace (c : Char) : Bool :=
  let n := c.toNat
  (9 ≤ n && n ≤ 13) || (28 ≤ n && n ≤ 32) || n == 0x85 || n == 0xA0 || n == 0x1680 ||
    (0x2000 ≤ n && n ≤ 0x200A) || n == 0x2028 || n == 0x2029 || n == 0x202F || n == 0x205F ||
    n == 0x3000

/-- Drop the characters of a class from both ends. -/
def trimBoth (p : Char → Bool) (cs : List Char) : List Char :=
  ((cs.dropWhile p).reverse.dropWhile p).reverse

/-- `str.strip()`. -/
def strip (s : String) : String := String.ofList (trimBoth isSpace s.toList)

/-- `str.split(sep)` for a single character. -/
def split (sep : Char) (s : String) : List String := (s.toList.splitOn sep).map String.ofList

/-- The lower-case form of a character, where that is one ASCII letter: the
ASCII capitals and the Kelvin sign. -/
def asciiLower (c : Char) : Char :=
  if 'A' ≤ c ∧ c ≤ 'Z' then Char.ofNat (c.toNat + 32)
  else if c.toNat = 0x212A then 'k'
  else c

/-- `str.lower()`. -/
def lower (s : String) : String := String.ofList (s.toList.map asciiLower)

/-- `str.replace(old, new)` for single characters. -/
def replaceChar (old new : Char) (s : String) : String :=
  String.ofList (s.toList.map fun c => if c = old then new else c)

def isLowerAscii (c : Char) : Bool := decide ('a' ≤ c ∧ c ≤ 'z')

def isAlnumAscii (c : Char) : Bool :=
  decide ('a' ≤ c ∧ c ≤ 'z' ∨ 'A' ≤ c ∧ c ≤ 'Z' ∨ '0' ≤ c ∧ c ≤ '9')

theorem trimBoth_eq_rdropWhile (p : Char → Bool) (cs : List Char) :
    trimBoth p cs = (cs.dropWhile p).rdropWhile p := rfl

/-- What has been trimmed is not trimmed any further. -/
theorem trimBoth_trimBoth (p : Char → Bool) (cs : List Char) :
    trimBoth p (trimBoth p cs) = trimBoth p cs := by
  simp only [trimBoth_eq_rdropWhile]
  have front : ((cs.dropWhile p).rdropWhile p).dropWhile p = (cs.dropWhile p).rdropWhile p := by
    refine List.dropWhile_eq_self_iff.mpr fun nonempty => ?_
    have sameHead := (List.rdropWhile_prefix p (l := cs.dropWhile p)).getElem (i := 0) nonempty
    rw [sameHead]
    exact List.dropWhile_get_zero_not p cs _
  rw [front, List.rdropWhile_idempotent]

theorem strip_strip (s : String) : strip (strip s) = strip s := by
  unfold strip
  rw [String.toList_ofList, trimBoth_trimBoth]

/-- A text without blanks is stripped already. -/
theorem strip_of_clean {s : String} (clean : ∀ c ∈ s.toList, isSpace c = false) :
    strip s = s := by
  have front : s.toList.dropWhile isSpace = s.toList :=
    List.dropWhile_eq_self_iff.mpr fun nonempty => by
      rw [clean _ (List.getElem_mem nonempty)]
      exact Bool.false_ne_true
  have back : s.toList.reverse.dropWhile isSpace = s.toList.reverse :=
    List.dropWhile_eq_self_iff.mpr fun nonempty => by
      rw [clean _ (List.mem_reverse.mp (List.getElem_mem nonempty))]
      exact Bool.false_ne_true
  unfold strip trimBoth
  rw [front, back, List.reverse_reverse, String.ofList_toList]

/-! ## Texts joined by a separator -/

section Joined

variable {α : Type} {c : α} {a b s t : List α}

/-- What stands before the first separator can be read back. -/
theorem cut_first (front : c ∉ a) (front' : c ∉ b) (same : a ++ c :: s = b ++ c :: t) :
    a = b ∧ s = t := by
  induction a generalizing b with
  | nil =>
      cases b with
      | nil => exact ⟨rfl, (List.cons.inj same).2⟩
      | cons d b => exact absurd (List.cons.inj same).1 fun eq => front' (eq ▸ List.mem_cons_self)
  | cons d a ih =>
      cases b with
      | nil => exact absurd (List.cons.inj same).1 fun eq => front (eq ▸ List.mem_cons_self)
      | cons e b =>
          obtain ⟨rfl, tails⟩ := List.cons.inj same
          obtain ⟨rfl, rest⟩ := ih (fun mem => front (List.mem_cons_of_mem _ mem))
            (fun mem => front' (List.mem_cons_of_mem _ mem)) tails
          exact ⟨rfl, rest⟩

/-- What stands after the last separator can be read back. -/
theorem cut_last (back : c ∉ s) (back' : c ∉ t) (same : a ++ c :: s = b ++ c :: t) :
    a = b ∧ s = t := by
  have reversed := congrArg List.reverse same
  simp only [List.reverse_append, List.reverse_cons, List.append_assoc,
    List.singleton_append] at reversed
  obtain ⟨after, before⟩ := cut_first (fun mem => back (List.mem_reverse.mp mem))
    (fun mem => back' (List.mem_reverse.mp mem)) reversed
  exact ⟨List.reverse_inj.mp before, List.reverse_inj.mp after⟩

/-- Texts that a separator joins and none contains can be read back. -/
theorem intercalate_inj [DecidableEq α] {xs ys : List (List α)} (nonempty : xs ≠ [])
    (nonempty' : ys ≠ []) (apart : ∀ x ∈ xs, c ∉ x) (apart' : ∀ y ∈ ys, c ∉ y)
    (same : [c].intercalate xs = [c].intercalate ys) : xs = ys := by
  rw [← List.splitOn_intercalate c apart nonempty, same,
    List.splitOn_intercalate c apart' nonempty']

end Joined

/-! ## Base64 -/

/-- The six bits that a character of either alphabet stands for. -/
def sextet (c : Char) : Option Nat :=
  if 'A' ≤ c ∧ c ≤ 'Z' then some (c.toNat - 65)
  else if 'a' ≤ c ∧ c ≤ 'z' then some (c.toNat - 71)
  else if '0' ≤ c ∧ c ≤ '9' then some (c.toNat + 4)
  else if c = '-' ∨ c = '+' then some 62
  else if c = '_' ∨ c = '/' then some 63
  else none

/-- The loop of `binascii.a2b_base64`: the position in the quad, the bits left over from
the last character, and the pads counted.  A character outside the alphabet is skipped. -/
def a2b : Nat → Nat → Nat → List Char → Option (List Nat)
  | pos, _, _, [] => if pos = 0 then some [] else none
  | pos, left, pads, c :: cs =>
      if c = '=' then
        if 2 ≤ pos then
          if 4 ≤ pos + (pads + 1) then some [] else a2b pos left (pads + 1) cs
        else a2b pos left pads cs
      else
        match sextet c with
        | none => a2b pos left pads cs
        | some d =>
            match pos with
            | 0 => a2b 1 d 0 cs
            | 1 => (a2b 2 (d % 16) 0 cs).map ((left * 4 + d / 16) :: ·)
            | 2 => (a2b 3 (d % 4) 0 cs).map ((left * 16 + d / 4) :: ·)
            | _ => (a2b 0 0 0 cs).map ((left * 64 + d) :: ·)

/-- The pads that complete a text of so many characters. -/
def padding (length : Nat) : List Char := List.replicate ((4 - length % 4) % 4) '='

/-- `base64.urlsafe_b64decode(text + "=" * (-len(text) % 4))`; `none` stands for the
`ValueError`. -/
def urlsafeB64decode (text : String) : Option (List Nat) :=
  if text.toList.all fun c => decide (c.toNat < 128) then
    a2b 0 0 0 (text.toList ++ padding text.length)
  else none

example : urlsafeB64decode "-_8" = some [251, 255] ∧ urlsafeB64decode "-*_8" = none ∧
    urlsafeB64decode "-*_8=" = some [251, 255] := by
  decide +kernel

/-- `bytes.decode("utf-8")`; `none` stands for the `UnicodeDecodeError`. -/
def decodeUtf8 (bytes : List Nat) : Option String :=
  String.fromUTF8? ⟨(bytes.map UInt8.ofNat).toArray⟩

/-- `s.encode("utf-8")`. -/
def encodeUtf8 (s : String) : List Nat := s.toByteArray.data.toList.map UInt8.toNat

theorem decodeUtf8_encodeUtf8 (s : String) : decodeUtf8 (encodeUtf8 s) = some s := by
  have bytes : ((encodeUtf8 s).map UInt8.ofNat).toArray = s.toByteArray.data := by
    unfold encodeUtf8
    rw [List.map_map, show UInt8.ofNat ∘ UInt8.toNat = id from funext fun _ => UInt8.ofNat_toNat,
      List.map_id, Array.toArray_toList]
  unfold decodeUtf8 String.fromUTF8?
  rw [bytes]
  exact dif_pos s.isValidUTF8

/-- The character of the url-safe alphabet for six bits. -/
def sextetChar (n : Nat) : Char :=
  if n < 26 then Char.ofNat (n + 65)
  else if n < 52 then Char.ofNat (n + 71)
  else if n < 62 then Char.ofNat (n - 4)
  else if n = 62 then '-'
  else '_'

/-- `base64.urlsafe_b64encode(data).rstrip(b"=")`. -/
def b64urlChars : List Nat → List Char
  | [] => []
  | [a] => [sextetChar (a / 4), sextetChar (a % 4 * 16)]
  | [a, b] => [sextetChar (a / 4), sextetChar (a % 4 * 16 + b / 16), sextetChar (b % 16 * 4)]
  | a :: b :: c :: rest =>
      sextetChar (a / 4) :: sextetChar (a % 4 * 16 + b / 16) ::
        sextetChar (b % 16 * 4 + c / 64) :: sextetChar (c % 64) :: b64urlChars rest

/-- `b64url_encode`. -/
def b64urlEncode (data : List Nat) : String := String.ofList (b64urlChars data)

theorem sextet_sextetChar : ∀ n < 64, sextet (sextetChar n) = some n ∧ sextetChar n ≠ '=' ∧
    (sextetChar n).toNat < 128 ∧ isSpace (sextetChar n) = false := by
  decide

section Positions

variable {n : Nat} (left pads : Nat) (cs : List Char)

/-- At each position of a quad, a character of the alphabet is read as its six bits. -/
theorem a2b_first (six : n < 64) : a2b 0 left pads (sextetChar n :: cs) = a2b 1 n 0 cs := by
  obtain ⟨value, notPad, _⟩ := sextet_sextetChar n six
  simp only [a2b, if_neg notPad, value]

theorem a2b_second (six : n < 64) : a2b 1 left pads (sextetChar n :: cs) =
    (a2b 2 (n % 16) 0 cs).map ((left * 4 + n / 16) :: ·) := by
  obtain ⟨value, notPad, _⟩ := sextet_sextetChar n six
  simp only [a2b, if_neg notPad, value]

theorem a2b_third (six : n < 64) : a2b 2 left pads (sextetChar n :: cs) =
    (a2b 3 (n % 4) 0 cs).map ((left * 16 + n / 4) :: ·) := by
  obtain ⟨value, notPad, _⟩ := sextet_sextetChar n six
  simp only [a2b, if_neg notPad, value]

theorem a2b_fourth (six : n < 64) : a2b 3 left pads (sextetChar n :: cs) =
    (a2b 0 0 0 cs).map ((left * 64 + n) :: ·) := by
  obtain ⟨value, notPad, _⟩ := sextet_sextetChar n six
  simp only [a2b, if_neg notPad, value]

end Positions

theorem a2b_b64urlChars : ∀ (data : List Nat), (∀ b ∈ data, b < 256) →
    a2b 0 0 0 (b64urlChars data ++ padding (b64urlChars data).length) = some data
  | [], _ => rfl
  | [a], bytes => by
      have := bytes a (by simp)
      rw [show padding (b64urlChars [a]).length = ['=', '='] from rfl]
      simp only [b64urlChars, List.cons_append, List.nil_append]
      rw [a2b_first _ _ _ (by omega), a2b_second _ _ _ (by omega)]
      simp only [a2b, ↓reduceIte, Nat.reduceAdd, Nat.reduceLeDiff, Option.map_some,
        Option.some.injEq, List.cons.injEq, and_true]
      omega
  | [a, b], bytes => by
      have := bytes a (by simp)
      have := bytes b (by simp)
      rw [show padding (b64urlChars [a, b]).length = ['='] from rfl]
      simp only [b64urlChars, List.cons_append, List.nil_append]
      rw [a2b_first _ _ _ (by omega), a2b_second _ _ _ (by omega), a2b_third _ _ _ (by omega)]
      simp only [a2b, ↓reduceIte, Nat.reduceAdd, Nat.reduceLeDiff, Option.map_some,
        Option.some.injEq, List.cons.injEq, and_true]
      constructor <;> omega
  | a :: b :: c :: rest, bytes => by
      have := bytes a (by simp)
      have := bytes b (by simp)
      have := bytes c (by simp)
      have ih := a2b_b64urlChars rest fun d mem => bytes d (by simp [mem])
      have pads : padding (b64urlChars (a :: b :: c :: rest)).length =
          padding (b64urlChars rest).length := by
        simp only [padding, b64urlChars, List.length_cons, Nat.add_assoc, Nat.reduceAdd,
          Nat.add_mod_right]
      rw [pads]
      simp only [b64urlChars, List.cons_append]
      rw [a2b_first _ _ _ (by omega), a2b_second _ _ _ (by omega), a2b_third _ _ _ (by omega),
        a2b_fourth _ _ _ (by omega), ih]
      simp only [Option.map_some, Option.some.injEq, List.cons.injEq, and_true]
      refine ⟨?_, ?_, ?_⟩ <;> omega
/-- A character of an encoded text is a character of the alphabet. -/
theorem mem_b64urlChars : ∀ (data : List Nat), (∀ b ∈ data, b < 256) →
    ∀ c ∈ b64urlChars data, ∃ n < 64, c = sextetChar n
  | [], _, c, mem => nomatch mem
  | [a], bytes, c, mem => by
      have := bytes a (by simp)
      simp only [b64urlChars, List.mem_cons, List.not_mem_nil, or_false] at mem
      rcases mem with rfl | rfl <;> exact ⟨_, by omega, rfl⟩
  | [a, b], bytes, c, mem => by
      have := bytes a (by simp)
      have := bytes b (by simp)
      simp only [b64urlChars, List.mem_cons, List.not_mem_nil, or_false] at mem
      rcases mem with rfl | rfl | rfl <;> exact ⟨_, by omega, rfl⟩
  | a :: b :: c' :: rest, bytes, c, mem => by
      have := bytes a (by simp)
      have := bytes b (by simp)
      have := bytes c' (by simp)
      simp only [b64urlChars, List.mem_cons] at mem
      rcases mem with rfl | rfl | rfl | rfl | mem
      · exact ⟨_, by omega, rfl⟩
      · exact ⟨_, by omega, rfl⟩
      · exact ⟨_, by omega, rfl⟩
      · exact ⟨_, by omega, rfl⟩
      · exact mem_b64urlChars rest (fun d mem => bytes d (by simp [mem])) c mem

theorem strip_b64urlEncode {data : List Nat} (bytes : ∀ b ∈ data, b < 256) :
    strip (b64urlEncode data) = b64urlEncode data := by
  refine strip_of_clean fun c mem => ?_
  rw [b64urlEncode, String.toList_ofList] at mem
  obtain ⟨n, six, rfl⟩ := mem_b64urlChars data bytes c mem
  exact (sextet_sextetChar n six).2.2.2

/-- **What is encoded is decoded.** -/
theorem urlsafeB64decode_b64urlEncode {data : List Nat} (bytes : ∀ b ∈ data, b < 256) :
    urlsafeB64decode (b64urlEncode data) = some data := by
  have ascii : (b64urlChars data).all (fun c => decide (c.toNat < 128)) = true := by
    refine List.all_eq_true.mpr fun c mem => decide_eq_true ?_
    obtain ⟨n, six, rfl⟩ := mem_b64urlChars data bytes c mem
    exact (sextet_sextetChar n six).2.2.1
  unfold urlsafeB64decode b64urlEncode
  rw [String.toList_ofList, String.length_ofList, if_pos ascii]
  exact a2b_b64urlChars data bytes

theorem encodeUtf8_lt (s : String) : ∀ b ∈ encodeUtf8 s, b < 256 := by
  intro b mem
  obtain ⟨byte, _, rfl⟩ := List.mem_map.mp mem
  exact byte.toNat_lt

/-! ## UUIDs -/

/-- `str.replace(w, "")`; the counter is what is left of the occurrence being dropped. -/
def removeAll (w : List Char) : Nat → List Char → List Char
  | _, [] => []
  | skip + 1, _ :: cs => removeAll w skip cs
  | 0, c :: cs =>
      if w.isPrefixOf (c :: cs) then removeAll w (w.length - 1) cs else c :: removeAll w 0 cs

/-- The zeros of the Unicode decimal digit blocks outside ASCII. -/
def digitZeros : List Nat :=
  [0x0660, 0x06F0, 0x07C0, 0x0966, 0x09E6, 0x0A66, 0x0AE6, 0x0B66, 0x0BE6, 0x0C66, 0x0CE6,
    0x0D66, 0x0DE6, 0x0E50, 0x0ED0, 0x0F20, 0x1040, 0x1090, 0x17E0, 0x1810, 0x1946, 0x19D0,
    0x1A80, 0x1A90, 0x1B50, 0x1BB0, 0x1C40, 0x1C50, 0xA620, 0xA8D0, 0xA900, 0xA9D0, 0xA9F0,
    0xAA50, 0xABF0, 0xFF10, 0x104A0, 0x10D30, 0x11066, 0x110F0, 0x11136, 0x111D0, 0x112F0,
    0x11450, 0x114D0, 0x11650, 0x116C0, 0x11730, 0x118E0, 0x11950, 0x11C50, 0x11D50, 0x11DA0,
    0x11F50, 0x16A60, 0x16AC0, 0x16B50, 0x1D7CE, 0x1D7D8, 0x1D7E2, 0x1D7EC, 0x1D7F6, 0x1E140,
    0x1E2F0, 0x1E4F0, 0x1E950, 0x1FBF0]

/-- The value of a hexadecimal digit as `int(text, 16)` reads it. -/
def digitValue (c : Char) : Option Nat :=
  match hexValue c with
  | some d => some d
  | none =>
      (digitZeros.find? fun z => decide (z ≤ c.toNat ∧ c.toNat < z + 10)).map (c.toNat - ·)

/-- Hexadecimal digits with single underscores between them. -/
def readDigits : Bool → Nat → List Char → Option Nat
  | afterDigit, value, [] => if afterDigit then some value else none
  | afterDigit, value, c :: cs =>
      if c = '_' then
        if afterDigit then readDigits false value cs else none
      else
        match digitValue c with
        | some d => readDigits true (value * 16 + d) cs
        | none => none

/-- `int(text, 16)` for a text without a minus sign. -/
def readHex (cs : List Char) : Option Nat :=
  let unsigned :=
    match trimBoth isSpace cs with
    | '+' :: cs => cs
    | cs => cs
  match unsigned with
  | '0' :: x :: cs =>
      if x = 'x' ∨ x = 'X' then
        match cs with
        | '_' :: cs => readDigits false 0 cs
        | cs => readDigits false 0 cs
      else readDigits false 0 ('0' :: x :: cs)
  | cs => readDigits false 0 cs

/-- The lower-case hexadecimal digits of a 128-bit number. -/
def hex32 (n : Nat) : List Char :=
  (List.range 32).map fun i => Nat.digitChar (n / 16 ^ (31 - i) % 16)

/-- `str` of a UUID: 8-4-4-4-12. -/
def uuidText (n : Nat) : String :=
  let digits := hex32 n
  String.ofList (digits.take 8 ++ '-' :: (digits.drop 8).take 4 ++ '-' :: (digits.drop 12).take 4 ++
    '-' :: (digits.drop 16).take 4 ++ '-' :: digits.drop 20)

/-- `str(uuid.UUID(text))`; `none` stands for the `ValueError`. -/
def uuid (text : String) : Option String :=
  let bare := removeAll ['u', 'u', 'i', 'd', ':'] 0 (removeAll ['u', 'r', 'n', ':'] 0 text.toList)
  let digits := (trimBoth (fun c => c == '{' || c == '}') bare).filter (· != '-')
  if digits.length = 32 then (readHex digits).map uuidText else none

end Py
