/-
FleetOrders.MessagePack — values as MessagePack bytes.

Writing takes the shortest form of every number, text and length
(`number`, `text`, `list`, `table`, `record`).

Reading is free in form and strict in meaning. A reader takes the bytes
that are left and returns a value and the bytes after it, or nothing.

* `head?` — what stands at the front: a value without parts, or the kind
  and length of one with parts.
* `word32?`, `bool?`, `string?`, `optional?`, `many?` — values by type.
  Numbers may have any width and sign as long as they fit.
* `skip?` — one value of any kind, left out of account. `room` bounds how
  many levels of lists and maps it may open.
* `Record.read?` — a record: a map from field names in any order, or the
  fields alone in their order. Fields that nobody asked for are left out
  of account.
* `variant?` — one of several names.
-/
import FleetOrders.Text.Lines

namespace FleetOrders

/-- A sequence of bytes. -/
abbrev Bytes := List UInt8

namespace MessagePack

/-! ## Writing -/

/-- A number in `width` bytes, most significant first. -/
def bigEndian : Nat → Nat → Bytes
  | 0, _ => []
  | width + 1, n => bigEndian width (n / 0x100) ++ [UInt8.ofNat n]

/-- A number that is not negative. -/
def number (n : Nat) : Bytes :=
  if n < 0x80 then [UInt8.ofNat n]
  else if n < 0x100 then 0xCC :: bigEndian 1 n
  else if n < 0x10000 then 0xCD :: bigEndian 2 n
  else if n < 0x100000000 then 0xCE :: bigEndian 4 n
  else 0xCF :: bigEndian 8 n

def nil : Bytes := [0xC0]

def bool (b : Bool) : Bytes :=
  if b then [0xC3] else [0xC2]

/-- The front of a text of so many bytes. -/
def textHead (length : Nat) : Bytes :=
  if length < 32 then [UInt8.ofNat (0xA0 + length)]
  else if length < 0x100 then 0xD9 :: bigEndian 1 length
  else if length < 0x10000 then 0xDA :: bigEndian 2 length
  else 0xDB :: bigEndian 4 length

/-- The front of a list of so many values. -/
def listHead (length : Nat) : Bytes :=
  if length < 16 then [UInt8.ofNat (0x90 + length)]
  else if length < 0x10000 then 0xDC :: bigEndian 2 length
  else 0xDD :: bigEndian 4 length

/-- The front of a map of so many entries. -/
def mapHead (length : Nat) : Bytes :=
  if length < 16 then [UInt8.ofNat (0x80 + length)]
  else if length < 0x10000 then 0xDE :: bigEndian 2 length
  else 0xDF :: bigEndian 4 length

def text (s : String) : Bytes :=
  textHead (Text.utf8 s).length ++ Text.utf8 s

variable {α β : Type}

/-- A value, or nil for none. -/
def optional (write : α → Bytes) : Option α → Bytes
  | some x => write x
  | none => nil

def list (write : α → Bytes) (xs : List α) : Bytes :=
  listHead xs.length ++ xs.flatMap write

/-- A map of entries in their order. -/
def table (writeKey : α → Bytes) (write : β → Bytes) (es : List (α × β)) : Bytes :=
  mapHead es.length ++ es.flatMap fun e => writeKey e.1 ++ write e.2

/-- A map from field names to values that are written already. -/
def record (fields : List (String × Bytes)) : Bytes :=
  table text id fields

/-! ## Reading the front of a value -/

/-- What stands at the front of a value. -/
inductive Head where
  | nil
  | bool (b : Bool)
  /-- A number in one of the forms without a sign. -/
  | unsigned (n : Nat)
  /-- A number in one of the forms with a sign. -/
  | signed (n : Int)
  | float
  /-- A text of so many bytes. -/
  | text (length : Nat)
  /-- Plain bytes. -/
  | binary (length : Nat)
  | list (length : Nat)
  | map (length : Nat)
  /-- One byte that tells the type, then so many more. -/
  | extension (length : Nat)
  deriving DecidableEq, Repr

/-- Exactly so many bytes. -/
def take? : Nat → Bytes → Option (Bytes × Bytes)
  | 0, bs => some ([], bs)
  | _ + 1, [] => none
  | n + 1, b :: bs => (take? n bs).map fun p => (b :: p.1, p.2)

/-- The number that bytes write, most significant first. -/
def ofBigEndian (bs : Bytes) : Nat :=
  bs.foldl (fun v b => 256 * v + b.toNat) 0

/-- A number of `width` bytes without a sign. -/
def natural? (width : Nat) (bs : Bytes) : Option (Nat × Bytes) :=
  (take? width bs).map fun p => (ofBigEndian p.1, p.2)

/-- The number that `n` stands for in two's complement, out of `count`
numbers: the upper half of them are negative. -/
def signedOf (count n : Nat) : Int :=
  if 2 * n < count then n else (n : Int) - count

/-- A front that is made of a number of `width` bytes in two's complement,
out of `count`. -/
def signedHead? (width count : Nat) (bs : Bytes) : Option (Head × Bytes) :=
  (natural? width bs).map fun p => (.signed (signedOf count p.1), p.2)

/-- A front that is made of a number of `width` bytes. -/
def headOf? (width : Nat) (make : Nat → Head) (bs : Bytes) : Option (Head × Bytes) :=
  (natural? width bs).map fun p => (make p.1, p.2)

/-- The front of the first value and the bytes after it. One byte, C1, is
the front of nothing. -/
def head? : Bytes → Option (Head × Bytes)
  | [] => none
  | b :: rest =>
    let m := b.toNat
    if m < 0x80 then some (.unsigned m, rest)
    else if m < 0x90 then some (.map (m - 0x80), rest)
    else if m < 0xA0 then some (.list (m - 0x90), rest)
    else if m < 0xC0 then some (.text (m - 0xA0), rest)
    else if 0xE0 ≤ m then some (.signed ((m : Int) - 256), rest)
    else
      match m with
      | 0xC0 => some (.nil, rest)
      | 0xC2 => some (.bool false, rest)
      | 0xC3 => some (.bool true, rest)
      | 0xC4 => headOf? 1 .binary rest
      | 0xC5 => headOf? 2 .binary rest
      | 0xC6 => headOf? 4 .binary rest
      | 0xC7 => headOf? 1 .extension rest
      | 0xC8 => headOf? 2 .extension rest
      | 0xC9 => headOf? 4 .extension rest
      | 0xCA => (take? 4 rest).map fun p => (.float, p.2)
      | 0xCB => (take? 8 rest).map fun p => (.float, p.2)
      | 0xCC => headOf? 1 .unsigned rest
      | 0xCD => headOf? 2 .unsigned rest
      | 0xCE => headOf? 4 .unsigned rest
      | 0xCF => headOf? 8 .unsigned rest
      | 0xD0 => signedHead? 1 0x100 rest
      | 0xD1 => signedHead? 2 0x10000 rest
      | 0xD2 => signedHead? 4 0x100000000 rest
      | 0xD3 => signedHead? 8 0x10000000000000000 rest
      | 0xD4 => some (.extension 1, rest)
      | 0xD5 => some (.extension 2, rest)
      | 0xD6 => some (.extension 4, rest)
      | 0xD7 => some (.extension 8, rest)
      | 0xD8 => some (.extension 16, rest)
      | 0xD9 => headOf? 1 .text rest
      | 0xDA => headOf? 2 .text rest
      | 0xDB => headOf? 4 .text rest
      | 0xDC => headOf? 2 .list rest
      | 0xDD => headOf? 4 .list rest
      | 0xDE => headOf? 2 .map rest
      | 0xDF => headOf? 4 .map rest
      | _ => none

/-! ## Reading values of a known type -/

/-- A number of at most 32 bits, in any form that is not a float. -/
def word32? (bs : Bytes) : Option (UInt32 × Bytes) :=
  match head? bs with
  | some (.unsigned n, rest) => if n < UInt32.size then some (UInt32.ofNat n, rest) else none
  | some (.signed z, rest) =>
    if 0 ≤ z ∧ z < UInt32.size then some (UInt32.ofNat z.toNat, rest) else none
  | _ => none

def bool? (bs : Bytes) : Option (Bool × Bytes) :=
  match head? bs with
  | some (.bool b, rest) => some (b, rest)
  | _ => none

/-- The bytes of a text, or plain bytes. -/
def content? (bs : Bytes) : Option (Bytes × Bytes) :=
  match head? bs with
  | some (.text n, rest) => take? n rest
  | some (.binary n, rest) => take? n rest
  | _ => none

/-- A text, which must be UTF-8. -/
def string? (bs : Bytes) : Option (String × Bytes) := do
  let (raw, rest) ← content? bs
  let s ← Text.ofUtf8? raw
  some (s, rest)

/-- A value, or nil for none. -/
def optional? (read : Bytes → Option (α × Bytes)) (bs : Bytes) : Option (Option α × Bytes) :=
  match head? bs with
  | some (.nil, rest) => some (none, rest)
  | _ => (read bs).map fun p => (some p.1, p.2)

/-- So many values of one type. -/
def many? (read : Bytes → Option (α × Bytes)) : Nat → Bytes → Option (List α × Bytes)
  | 0, bs => some ([], bs)
  | n + 1, bs =>
    match read bs with
    | none => none
    | some (x, rest) => (many? read n rest).map fun p => (x :: p.1, p.2)

/-- A list. Plain bytes are a list of numbers, so they will do where every
byte makes a value. -/
def list? (read : Bytes → Option (α × Bytes)) (ofByte? : UInt8 → Option α) (bs : Bytes) :
    Option (List α × Bytes) :=
  match head? bs with
  | some (.list n, rest) => many? read n rest
  | some (.binary n, rest) => do
    let (raw, rest) ← take? n rest
    let xs ← raw.mapM ofByte?
    some (xs, rest)
  | _ => none

/-- A key, then a value. -/
def item? (readKey : Bytes → Option (α × Bytes)) (read : Bytes → Option (β × Bytes))
    (bs : Bytes) : Option ((α × β) × Bytes) := do
  let (k, rest) ← readKey bs
  let (x, rest) ← read rest
  some ((k, x), rest)

/-- The entries of a map in their order. -/
def table? (readKey : Bytes → Option (α × Bytes)) (read : Bytes → Option (β × Bytes))
    (bs : Bytes) : Option (List (α × β) × Bytes) :=
  match head? bs with
  | some (.map n, rest) => many? (item? readKey read) n rest
  | _ => none

/-! ## Leaving values out of account -/

/-- `step` so many times over. -/
def repeat? (step : Bytes → Option Bytes) : Nat → Bytes → Option Bytes
  | 0, bs => some bs
  | n + 1, bs => (step bs).bind (repeat? step n)

/-- The bytes after one value of any kind that opens at most `room` levels
of lists, maps and extensions. -/
def skip? : Nat → Bytes → Option Bytes
  | 0, bs =>
    match head? bs with
    | none | some (.list _, _) | some (.map _, _) | some (.extension _, _) => none
    | some (.text n, rest) | some (.binary n, rest) => (take? n rest).map (·.2)
    | some (_, rest) => some rest
  | room + 1, bs =>
    match head? bs with
    | none => none
    | some (.list n, rest) => repeat? (skip? room) n rest
    | some (.map n, rest) => repeat? (skip? room) (2 * n) rest
    | some (.extension n, rest) => (take? (n + 1) rest).map (·.2)
    | some (.text n, rest) | some (.binary n, rest) => (take? n rest).map (·.2)
    | some (_, rest) => some rest

/-! ## Reading records and names -/

/-- The place of a name that is written in bytes. -/
def placeOf? (names : List String) (raw : Bytes) : Option Nat :=
  names.findIdx? fun name => Text.utf8 name == raw

/-- The place of a field, which is named by its name or by its place. A
name or a place that no field has gives `none` inside. -/
def field? (names : List String) (bs : Bytes) : Option (Option Nat × Bytes) :=
  match head? bs with
  | some (.unsigned n, rest) => some (if n < names.length then some n else none, rest)
  | _ => (content? bs).map fun p => (placeOf? names p.1, p.2)

/-- How a record is read: `parts` holds the fields that were read so
far. -/
structure Record (parts α : Type) where
  /-- The names of the fields in their order. -/
  names : List String
  /-- No field was read. -/
  blank : parts
  /-- Reads the field at a place. A field that was read before is an
  error. -/
  fill? : Nat → parts → Bytes → Option (parts × Bytes)
  /-- The record, if no field is missing. -/
  complete? : parts → Option α

namespace Record

variable {parts : Type} (r : Record parts α)

/-- Reads so many named fields. -/
def named? (room : Nat) : Nat → parts → Bytes → Option (parts × Bytes)
  | 0, p, bs => some (p, bs)
  | n + 1, p, bs =>
    match field? r.names bs with
    | none => none
    | some (none, rest) => (skip? room rest).bind (named? room n p)
    | some (some place, rest) =>
      (r.fill? place p rest).bind fun q => named? room n q.1 q.2

/-- Reads the fields from the given place on. -/
def ordered? : Nat → Nat → parts → Bytes → Option (parts × Bytes)
  | 0, _, p, bs => some (p, bs)
  | n + 1, place, p, bs =>
    (r.fill? place p bs).bind fun q => ordered? n (place + 1) q.1 q.2

/-- A record as a map or as a list of its fields. -/
def read? (room : Nat) (bs : Bytes) : Option (α × Bytes) := do
  let (p, rest) ← match head? bs with
    | some (.map n, rest) => r.named? room n r.blank rest
    | some (.list n, rest) =>
      if n = r.names.length then r.ordered? n 0 r.blank rest else none
    | _ => none
  let x ← r.complete? p
  some (x, rest)

end Record

/-- Reads a field that was not read before. -/
def once? (slot : Option α) (read : Bytes → Option (α × Bytes)) (bs : Bytes) :
    Option (α × Bytes) :=
  match slot with
  | some _ => none
  | none => read bs

/-- The place of one of several names, written as the name or as the
place. -/
def choice? (names : List String) (bs : Bytes) : Option (Nat × Bytes) :=
  match field? names bs with
  | some (some place, rest) => some (place, rest)
  | _ => none

/-- One of several names: the choice alone, or as the key of a nil in a
map of length one. -/
def variant? (names : List String) (bs : Bytes) : Option (Nat × Bytes) :=
  match head? bs with
  | some (.map n, rest) =>
    if n = 1 then do
      let (place, rest) ← choice? names rest
      match head? rest with
      | some (.nil, rest) => some (place, rest)
      | _ => none
    else none
  | _ => choice? names bs

end MessagePack

end FleetOrders
