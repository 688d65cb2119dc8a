import BlogMarkdown.Text.CharacterSet.Big5
import BlogMarkdown.Text.CharacterSet.Gb18030
import BlogMarkdown.Text.CharacterSet.JisX0208
import BlogMarkdown.Text.CharacterSet.JisX0212
import BlogMarkdown.Text.CharacterSet.KsX1001
/-!
# East Asian encodings

Encodings in which one to four bytes make a character. Each is given by what stands at the front of some
bytes: the characters read, and how many bytes behind the first one they take. A faulty part is one
replacement character; an ASCII byte that breaks a sequence off is read by itself.
-/
namespace BlogMarkdown.Text.MultiByte

/-- What stands at the front of `b :: rest` in a state, how many bytes of `rest` belong to it, and the
next state. -/
abbrev Front (σ : Type) := σ → UInt8 → List UInt8 → List Char × Nat × σ

/-- Reads bytes; `skip` of them still belong to what was read last, and `read` holds the characters so
far, the last one first. -/
def decodeFrom {σ : Type} (front : Front σ) (read : List Char) (skip : Nat) (state : σ) :
    List UInt8 → List Char
  | [] => read.reverse
  | b :: rest =>
    match skip with
    | skip + 1 => decodeFrom front read skip state rest
    | 0 =>
      let (chars, used, state) := front state b rest
      decodeFrom front (chars.reverseAux read) used state rest

/-- A byte as the character of the same number. -/
def ascii (b : UInt8) : Char := Char.ofNat b.toNat

/-- Whether a byte lies between two others or is one of them. -/
def within (low high b : UInt8) : Bool := low ≤ b && b ≤ high

/-- A fault behind whose first byte comes `b`: an ASCII byte is no part of it. -/
def broken (b : UInt8) : List Char × Nat := (['\ufffd'], if b < 0x80 then 0 else 1)

/-- A character of two bytes, or the fault that its second byte ends. -/
def second (b : UInt8) (char? : Option Char) : List Char × Nat :=
  match char? with
  | some c => ([c], 1)
  | none => broken b

/-- An encoding in which a first byte of some range leads a second one, whose numbers `number?` tells,
and the others are ASCII or faults. -/
def pairs (isLead : UInt8 → Bool) (chars? : UInt8 → UInt8 → Option (List Char)) : Front Unit :=
  fun _ b rest =>
    if b < 0x80 then ([ascii b], 0, ())
    else if isLead b then
      match rest with
      | [] => (['\ufffd'], 0, ())
      | t :: _ =>
        match chars? b t with
        | some cs => (cs, 1, ())
        | none =>
          let (cs, used) := broken t
          (cs, used, ())
    else (['\ufffd'], 0, ())

/-- A katakana of half width. -/
def halfKatakana (first b : UInt8) : Char := Char.ofNat (0xff61 + (b.toNat - first.toNat))

/-- The number in a row of `width` characters that starts with `row` and lies in row `lead`. -/
def number (width lead trail : Nat) : Nat := lead * width + trail

/-- A number where the second byte passes over 0x7f. -/
def offsetTrail (t gap : UInt8) : Nat := t.toNat - (if t < 0x7f then 0x40 else gap.toNat)

/-- Korean. -/
def koreanFront (table : Array Char) : Front Unit :=
  pairs (within 0x81 0xfe) fun b t =>
    if within 0x41 0xfe t then
      (CharacterSet.char? table (number 190 (b.toNat - 0x81) (t.toNat - 0x41))).map ([·])
    else none

/-- Traditional Chinese. Four numbers stand for a letter with two marks. -/
def big5Front (table : Array Char) : Front Unit :=
  pairs (within 0x81 0xfe) fun b t =>
    if within 0x40 0x7e t || within 0xa1 0xfe t then
      match number 157 (b.toNat - 0x81) (offsetTrail t 0x62) with
      | 1133 => some ['\u00ca', '\u0304']
      | 1135 => some ['\u00ca', '\u030c']
      | 1164 => some ['\u00ea', '\u0304']
      | 1166 => some ['\u00ea', '\u030c']
      | n => (CharacterSet.char? table n).map ([·])
    else none

/-- Japanese as Shift_JIS writes it. A stretch of numbers stands for private characters. -/
def shiftJisFront (table : Array Char) : Front Unit := fun _ b rest =>
  if b = 0x80 then ([ascii b], 0, ())
  else if within 0xa1 0xdf b then ([halfKatakana 0xa1 b], 0, ())
  else
    pairs (fun b => within 0x81 0x9f b || within 0xe0 0xfc b) (fun b t =>
      if within 0x40 0x7e t || within 0x80 0xfc t then
        let lead := b.toNat - (if b < 0xa0 then 0x81 else 0xc1)
        let n := number 188 lead (offsetTrail t 0x41)
        if 8836 ≤ n ∧ n ≤ 10715 then some [Char.ofNat (0xe000 + (n - 8836))]
        else (CharacterSet.char? table n).map ([·])
      else none) () b rest

/-- Japanese as EUC-JP writes it: the byte 0x8e leads a katakana of half width, 0x8f two bytes of the
second set. -/
def eucJpFront (table table2 : Array Char) : Front Unit := fun _ b rest =>
  let char? (table : Array Char) (b t : UInt8) : Option Char :=
    if within 0xa1 0xfe b && within 0xa1 0xfe t then
      CharacterSet.char? table (number 94 (b.toNat - 0xa1) (t.toNat - 0xa1))
    else none
  match b, rest with
  | 0x8f, t :: rest =>
    if within 0xa1 0xfe t then
      match rest with
      | [] => (['\ufffd'], 1, ())
      | u :: _ =>
        let (cs, used) := second u (char? table2 t u)
        (cs, used + 1, ())
    else
      let (cs, used) := broken t
      (cs, used, ())
  | _, _ =>
    pairs (fun b => b = 0x8e || b = 0x8f || within 0xa1 0xfe b) (fun b t =>
      if b = 0x8e && within 0xa1 0xdf t then some [halfKatakana 0xa1 t]
      else (char? table b t).map ([·])) () b rest

/-- The sets that the escape sequences of ISO-2022-JP choose between. -/
inductive JisMode where
  | ascii
  | roman
  | katakana
  | kanji
  deriving Repr, DecidableEq

/-- The set that an escape sequence chooses, given the two bytes behind its first. -/
def jisMode? : List UInt8 → Option JisMode
  | 0x28 :: 0x42 :: _ => some .ascii
  | 0x28 :: 0x4a :: _ => some .roman
  | 0x28 :: 0x49 :: _ => some .katakana
  | 0x24 :: 0x40 :: _ | 0x24 :: 0x42 :: _ => some .kanji
  | _ => none

/-- Japanese as ISO-2022-JP writes it. The state holds the set that is chosen, and whether nothing was
read since it was: two escape sequences in a row are a fault. -/
def iso2022JpFront (table : Array Char) : Front (JisMode × Bool) := fun (mode, fresh) b rest =>
  if b = 0x1b then
    match jisMode? rest with
    | some next => (if fresh then ['\ufffd'] else [], 2, next, true)
    | none => (['\ufffd'], 0, mode, false)
  else
    match mode with
    | .ascii | .roman =>
      if b < 0x80 ∧ b ≠ 0x0e ∧ b ≠ 0x0f then
        let c := if mode = .roman ∧ b = 0x5c then '\u00a5'
          else if mode = .roman ∧ b = 0x7e then '\u203e' else ascii b
        ([c], 0, mode, false)
      else (['\ufffd'], 0, mode, false)
    | .katakana =>
      if within 0x21 0x5f b then ([halfKatakana 0x21 b], 0, mode, false)
      else (['\ufffd'], 0, mode, false)
    | .kanji =>
      if within 0x21 0x7e b then
        match rest with
        | [] => (['\ufffd'], 0, mode, false)
        | t :: _ =>
          if within 0x21 0x7e t then
            let char? := CharacterSet.char? table (number 94 (b.toNat - 0x21) (t.toNat - 0x21))
            ([char?.getD '\ufffd'], 1, mode, false)
          else (['\ufffd'], if t = 0x1b then 0 else 1, mode, false)
      else (['\ufffd'], 0, mode, false)

/-- The private code points that stood for characters of two bytes until the characters had code points
of their own, by those. -/
def formerlyPrivate : List (Nat × Nat) :=
  [(0x1e3f, 0xe7c7), (0xfe10, 0xe78d), (0xfe12, 0xe78e), (0xfe11, 0xe78f), (0xfe13, 0xe790),
    (0xfe14, 0xe791), (0xfe15, 0xe792), (0xfe16, 0xe793), (0xfe17, 0xe794), (0xfe18, 0xe795),
    (0xfe19, 0xe796), (0x9fb4, 0xe81e), (0x9fb5, 0xe826), (0x9fb6, 0xe82b), (0x9fb7, 0xe82c),
    (0x9fb8, 0xe832), (0x9fb9, 0xe843), (0x9fba, 0xe854), (0x9fbb, 0xe864)]

/-- The characters that GB 18030 writes in four bytes, in order: those of the first plane that had no
two bytes when the order was fixed. The one at U+1E3F and the private one that it left stand in each
other's place. -/
def fourByteTable (table : Array Char) : Array Char :=
  let twoByte := table.foldl
    (fun seen c => seen.setIfInBounds ((formerlyPrivate.lookup c.toNat).getD c.toNat) true)
    (Array.replicate 0x10000 false)
  let isFourByte (n : Nat) : Bool := n ≠ 0xe5e5 && n.isValidChar && twoByte[n]? = some false
  (((List.range' 0x80 (0x10000 - 0x80)).filter isFourByte).map fun n =>
    Char.ofNat (if n = 0x1e3f then 0xe7c7 else n)).toArray

/-- The character of four bytes with this number. -/
def fourByteChar? (table : Array Char) (n : Nat) : Option Char :=
  if n < table.size then table[n]?
  else if 189000 ≤ n ∧ n - 189000 < 0x100000 then some (Char.ofNat (0x10000 + (n - 189000)))
  else none

/-- Simplified Chinese, in two bytes or four. -/
def gb18030Front (table fourByte : Array Char) : Front Unit := fun _ b rest =>
  if b = 0x80 then (['\u20ac'], 0, ())
  else
    match rest with
    | c :: rest' =>
      if within 0x81 0xfe b && within 0x30 0x39 c then
        match rest' with
        | [] => (['\ufffd'], 1, ())
        | d :: rest' =>
          if within 0x81 0xfe d then
            match rest' with
            | [] => (['\ufffd'], 2, ())
            | e :: _ =>
              if within 0x30 0x39 e then
                let n := (((b.toNat - 0x81) * 10 + (c.toNat - 0x30)) * 126 + (d.toNat - 0x81)) * 10 +
                  (e.toNat - 0x30)
                ([(fourByteChar? fourByte n).getD '\ufffd'], 3, ())
              else (['\ufffd'], 0, ())
          else (['\ufffd'], 0, ())
      else
        pairs (within 0x81 0xfe) (fun b t =>
          if within 0x40 0x7e t || within 0x80 0xfe t then
            (CharacterSet.char? table (number 190 (b.toNat - 0x81) (offsetTrail t 0x41))).map ([·])
          else none) () b rest
    | [] => pairs (within 0x81 0xfe) (fun _ _ => none) () b rest

/-- Reads bytes from the front. -/
def decodeBy {σ : Type} (front : Front σ) (start : σ) (bytes : List UInt8) : List Char :=
  decodeFrom front [] 0 start bytes

end BlogMarkdown.Text.MultiByte
