/-!
The characters of a YAML stream, and marks: where in the stream a reader stands. Line ends come in
several spellings and are read as a line feed; the two Unicode separators stay what they are.
-/
namespace CheatCodes.Yaml

def isAllowed (c : Char) : Bool :=
  let code := c.toNat
  code == 0x09 || code == 0x0A || code == 0x0D || (0x20 ≤ code && code ≤ 0x7E) || code == 0x85 ||
    (0xA0 ≤ code && code ≤ 0xFFFD) || 0x10000 ≤ code

/-- Line ends after `joinBreaks`. -/
def isBreak (c : Char) : Bool :=
  c == '\n' || c == '\u2028' || c == '\u2029'

def isBlank (c : Char) : Bool :=
  c == ' ' || c == '\t'

def isWordChar (c : Char) : Bool :=
  c.isAlphanum || c == '_' || c == '-'

def byteOrderMark : Char := '\ufeff'

/-- Makes a line feed of every carriage return, both together, and next line. -/
def joinBreaks : List Char → List Char
  | [] => []
  | '\x0d' :: '\n' :: cs => '\n' :: joinBreaks cs
  | c :: cs => (if c == '\x0d' || c == '\x85' then '\n' else c) :: joinBreaks cs

/-- A blank, a line end or the end of the stream comes next. -/
def endsWord : List Char → Bool
  | [] => true
  | c :: _ => isBlank c || isBreak c

/-- A document indicator comes next: three dashes or three dots as a word. -/
def startsDocument : List Char → Bool
  | '-' :: '-' :: '-' :: cs | '.' :: '.' :: '.' :: cs => endsWord cs
  | _ => false

theorem utf8ByteSize_ofList_cons (c : Char) (cs : List Char) :
    (String.ofList (c :: cs)).utf8ByteSize = c.utf8Size + (String.ofList cs).utf8ByteSize := by
  rw [← List.singleton_append, String.ofList_append, String.utf8ByteSize_append,
    ← String.singleton_eq_ofList, String.utf8ByteSize_singleton]

theorem length_le_utf8ByteSize (cs : List Char) :
    cs.length ≤ (String.ofList cs).utf8ByteSize := by
  induction cs with
  | nil => exact Nat.zero_le _
  | cons c cs ih =>
    have one : 1 ≤ c.utf8Size := c.utf8Size_pos
    rw [utf8ByteSize_ofList_cons, List.length_cons]
    omega

structure Mark where
  line : Nat
  column : Nat
  /-- How many octets of UTF-8 spell the characters before this one in its line. -/
  octet : Nat
  deriving DecidableEq, Repr

namespace Mark

def start : Mark := ⟨0, 0, 0⟩

def pass (m : Mark) (c : Char) : Mark :=
  if isBreak c then ⟨m.line + 1, 0, 0⟩ else ⟨m.line, m.column + 1, m.octet + c.utf8Size⟩

def after (m : Mark) (cs : List Char) : Mark :=
  cs.foldl pass m

@[simp] theorem after_nil (m : Mark) : m.after [] = m := rfl

theorem after_append (m : Mark) (cs ds : List Char) : m.after (cs ++ ds) = (m.after cs).after ds :=
  List.foldl_append

theorem octet_after {cs : List Char} (m : Mark) (inLine : ∀ c ∈ cs, isBreak c = false) :
    (m.after cs).octet = m.octet + (String.ofList cs).utf8ByteSize := by
  induction cs generalizing m with
  | nil => rfl
  | cons c cs ih =>
    have head : (m.pass c).octet = m.octet + c.utf8Size := by
      simp only [pass, inLine c List.mem_cons_self, Bool.false_eq_true, if_false]
    have tail := ih (m.pass c) (fun d member => inLine d (List.mem_cons_of_mem c member))
    rw [show m.after (c :: cs) = (m.pass c).after cs from rfl, tail, head,
      utf8ByteSize_ofList_cons, Nat.add_assoc]

end Mark

end CheatCodes.Yaml
