/-
FleetOrders.Proofs.MessagePackRoundTrip — what is written as MessagePack is
read back.

A value reads back when its reader finds it at the front of its bytes and
leaves what comes after them (`MessagePack.ReadsBack`). Numbers and lengths are
written in the shortest of several forms: in the byte that tells the kind, or
behind it in one, two or four bytes. A length beyond 32 bits is cut off.

* `MessagePack.head?_shortest`, `MessagePack.head?_oneTwoOrFour`,
  `MessagePack.head?_twoOrFour` — the forms.
* `MessagePack.head?_textHead`, `MessagePack.head?_listHead`,
  `MessagePack.head?_mapHead`, `MessagePack.head?_number` — the fronts of
  texts, lists, maps and numbers.
* `MessagePack.readsBack_text`, `MessagePack.readsBack_list`,
  `MessagePack.readsBack_optional`, `MessagePack.readsBack_table` — texts, and
  what is made of values that read back.
* `MessagePack.Record.readsBack` — records, if each field in its turn fills
  its place (`MessagePack.Record.Fills`).
-/
import FleetOrders.MessagePack

namespace FleetOrders

namespace Text

/-- The bytes of a string write that string. -/
@[simp] theorem ofUtf8?_utf8 (s : String) : ofUtf8? (utf8 s) = some s := by
  have hbytes : (⟨(utf8 s).toArray⟩ : ByteArray) = s.toByteArray := rfl
  rw [ofUtf8?, hbytes, String.fromUTF8?, dif_pos s.isValidUTF8]
  rfl

end Text

namespace MessagePack

/-! ## Numbers of a fixed width -/

/-- How many numbers `width` bytes can write. -/
def span : Nat → Nat
  | 0 => 1
  | width + 1 => 0x100 * span width

theorem length_bigEndian (width n : Nat) : (bigEndian width n).length = width := by
  induction width generalizing n with
  | zero => rfl
  | succ width ih => simp [bigEndian, ih]

theorem ofBigEndian_concat (bs : Bytes) (b : UInt8) :
    ofBigEndian (bs ++ [b]) = 256 * ofBigEndian bs + b.toNat := by
  simp [ofBigEndian]

/-- The bytes of a number write as much of it as has room in them. -/
theorem ofBigEndian_bigEndian (width n : Nat) :
    ofBigEndian (bigEndian width n) = n % span width := by
  induction width generalizing n with
  | zero => rw [span, Nat.mod_one, bigEndian, ofBigEndian, List.foldl_nil]
  | succ width ih =>
    have hlow : (UInt8.ofNat n).toNat = n % 0x100 := UInt8.toNat_ofNat'
    rw [bigEndian, ofBigEndian_concat, ih, hlow, span, Nat.mod_mul]
    omega

theorem take?_append (bs rest : Bytes) : take? bs.length (bs ++ rest) = some (bs, rest) := by
  induction bs with
  | nil => rfl
  | cons b bs ih => simp [take?, ih]

theorem headOf?_bigEndian (width n : Nat) (make : Nat → Head) (rest : Bytes) :
    headOf? width make (bigEndian width n ++ rest) = some (make (n % span width), rest) := by
  have htake := take?_append (bigEndian width n) rest
  rw [length_bigEndian] at htake
  simp [headOf?, natural?, htake, ofBigEndian_bigEndian]

/-! ## Fronts -/

/-- The front that a byte below `C0` is by itself. -/
def single (byte : Nat) : Head :=
  if byte < 0x80 then .unsigned byte
  else if byte < 0x90 then .map (byte - 0x80)
  else if byte < 0xA0 then .list (byte - 0x90)
  else .text (byte - 0xA0)

theorem head?_single {byte : Nat} (h : byte < 0xC0) (rest : Bytes) :
    head? (UInt8.ofNat byte :: rest) = some (single byte, rest) := by
  have hbyte : (UInt8.ofNat byte).toNat = byte := by
    rw [UInt8.toNat_ofNat']
    exact Nat.mod_eq_of_lt (by omega)
  simp only [head?, hbyte, single]
  split
  · rfl
  split
  · rfl
  split
  · rfl
  · rfl

section Fronts

variable {make : Nat → Head} {one two four : UInt8}

/-- A number behind the byte for its width. What has no room in 32 bits is cut
off. -/
theorem head?_twoOrFour (htwo : ∀ bs, head? (two :: bs) = headOf? 2 make bs)
    (hfour : ∀ bs, head? (four :: bs) = headOf? 4 make bs) (n : Nat) (rest : Bytes) :
    head? ((if n < 0x10000 then two :: bigEndian 2 n else four :: bigEndian 4 n) ++ rest) =
      some (make (n % UInt32.size), rest) := by
  split
  case isTrue hn =>
    rw [List.cons_append, htwo, headOf?_bigEndian, Nat.mod_eq_of_lt (b := span 2) hn,
      Nat.mod_eq_of_lt (show n < UInt32.size by simp only [UInt32.size]; omega)]
  case isFalse =>
    rw [List.cons_append, hfour, headOf?_bigEndian]
    rfl

theorem head?_oneTwoOrFour (hone : ∀ bs, head? (one :: bs) = headOf? 1 make bs)
    (htwo : ∀ bs, head? (two :: bs) = headOf? 2 make bs)
    (hfour : ∀ bs, head? (four :: bs) = headOf? 4 make bs) (n : Nat) (rest : Bytes) :
    head? ((if n < 0x100 then one :: bigEndian 1 n
      else if n < 0x10000 then two :: bigEndian 2 n else four :: bigEndian 4 n) ++ rest) =
      some (make (n % UInt32.size), rest) := by
  split
  case isTrue hn =>
    rw [List.cons_append, hone, headOf?_bigEndian, Nat.mod_eq_of_lt (b := span 1) hn,
      Nat.mod_eq_of_lt (show n < UInt32.size by simp only [UInt32.size]; omega)]
  case isFalse => exact head?_twoOrFour htwo hfour n rest

/-- A small number in the byte itself, and others behind it. -/
theorem head?_shortest {n limit byte : Nat} {wide rest : Bytes} (hlimit : limit ≤ 0x80)
    (hsmall : n < limit → byte < 0xC0 ∧ single byte = make n)
    (hwide : head? (wide ++ rest) = some (make (n % UInt32.size), rest)) :
    head? ((if n < limit then [UInt8.ofNat byte] else wide) ++ rest) =
      some (make (n % UInt32.size), rest) := by
  split
  case isTrue hn =>
    obtain ⟨hbyte, hsingle⟩ := hsmall hn
    have hsize : n < UInt32.size := Nat.lt_trans (Nat.lt_of_lt_of_le hn hlimit) (by decide)
    rw [List.singleton_append, head?_single hbyte, hsingle, Nat.mod_eq_of_lt hsize]
  case isFalse => exact hwide

theorem head?_textHead (length : Nat) (rest : Bytes) :
    head? (textHead length ++ rest) = some (.text (length % UInt32.size), rest) := by
  refine head?_shortest (by decide) (fun h => ⟨by omega, ?_⟩)
    (head?_oneTwoOrFour (fun _ => rfl) (fun _ => rfl) (fun _ => rfl) length rest)
  rw [single, if_neg (by omega), if_neg (by omega), if_neg (by omega), Nat.add_sub_cancel_left]

theorem head?_listHead (length : Nat) (rest : Bytes) :
    head? (listHead length ++ rest) = some (.list (length % UInt32.size), rest) := by
  refine head?_shortest (by decide) (fun h => ⟨by omega, ?_⟩)
    (head?_twoOrFour (fun _ => rfl) (fun _ => rfl) length rest)
  rw [single, if_neg (by omega), if_neg (by omega), if_pos (by omega), Nat.add_sub_cancel_left]

theorem head?_mapHead (length : Nat) (rest : Bytes) :
    head? (mapHead length ++ rest) = some (.map (length % UInt32.size), rest) := by
  refine head?_shortest (by decide) (fun h => ⟨by omega, ?_⟩)
    (head?_twoOrFour (fun _ => rfl) (fun _ => rfl) length rest)
  rw [single, if_neg (by omega), if_pos (by omega), Nat.add_sub_cancel_left]

end Fronts

theorem head?_number {n : Nat} (h : n < UInt32.size) (rest : Bytes) :
    head? (number n ++ rest) = some (.unsigned n, rest) := by
  have hshort : number n = if n < 0x80 then [UInt8.ofNat n]
      else if n < 0x100 then 0xCC :: bigEndian 1 n
      else if n < 0x10000 then 0xCD :: bigEndian 2 n else 0xCE :: bigEndian 4 n := by
    rw [number, if_pos (show n < 0x100000000 from h)]
  have hhead : head? (number n ++ rest) = some (.unsigned (n % UInt32.size), rest) := by
    rw [hshort]
    exact head?_shortest (by decide) (fun hsmall => ⟨by omega, if_pos hsmall⟩)
      (head?_oneTwoOrFour (fun _ => rfl) (fun _ => rfl) (fun _ => rfl) n rest)
  rwa [Nat.mod_eq_of_lt h] at hhead

/-! ## Values -/

section Values

variable {α β : Type} {write : α → Bytes} {read : Bytes → Option (α × Bytes)}

/-- The reader finds the value at the front of its bytes, whatever comes
after them. -/
def ReadsBack (write : α → Bytes) (read : Bytes → Option (α × Bytes)) (x : α) : Prop :=
  ∀ rest, read (write x ++ rest) = some (x, rest)

/-- The reader finds the value there, too, when it is renamed. -/
theorem ReadsBack.map {x : α} (h : ReadsBack write read x) (make : α → β) (take : β → α)
    (htake : take (make x) = x) :
    ReadsBack (fun y => write (take y)) (fun bs => (read bs).map fun p => (make p.1, p.2))
      (make x) := by
  intro rest
  show (read (write (take (make x)) ++ rest)).map _ = _
  rw [htake, h rest]
  rfl

/-- A number of 32 bits reads back. -/
theorem readsBack_word (n : UInt32) : ReadsBack (fun n => number n.toNat) word32? n := by
  intro rest
  have hhead := head?_number n.toNat_lt rest
  simp [word32?, hhead, n.toNat_lt]

theorem readsBack_bool (b : Bool) : ReadsBack bool bool? b := by
  intro rest
  cases b <;> rfl

/-- A text whose bytes can be counted reads back. -/
theorem readsBack_text {s : String} (h : (Text.utf8 s).length < UInt32.size) :
    ReadsBack text string? s := by
  intro rest
  have hhead := head?_textHead (Text.utf8 s).length (Text.utf8 s ++ rest)
  rw [Nat.mod_eq_of_lt h] at hhead
  simp [text, string?, content?, hhead, take?_append]

/-- Of a text of 2³² bytes the front tells none, so it is read as empty. -/
theorem string?_overlong {s : String} (h : (Text.utf8 s).length = UInt32.size) (rest : Bytes) :
    string? (text s ++ rest) = some ("", Text.utf8 s ++ rest) := by
  have hhead := head?_textHead (Text.utf8 s).length (Text.utf8 s ++ rest)
  rw [h, Nat.mod_self, ← h] at hhead
  have hempty : Text.ofUtf8? [] = some "" := Text.ofUtf8?_utf8 ""
  simp [text, string?, content?, hhead, take?, hempty]

/-- Values that read back do so one after the other. -/
theorem many?_flatMap {xs : List α} (h : ∀ x ∈ xs, ReadsBack write read x) (rest : Bytes) :
    many? read xs.length (xs.flatMap write ++ rest) = some (xs, rest) := by
  induction xs with
  | nil => rfl
  | cons x xs ih =>
    have hx := h x List.mem_cons_self (xs.flatMap write ++ rest)
    have hxs := ih fun y hy => h y (List.mem_cons_of_mem x hy)
    simp [many?, hx, hxs]

/-- Of a list whose values read back as many are read as its front tells. -/
theorem list?_list {xs : List α} (h : ∀ x ∈ xs, ReadsBack write read x)
    (ofByte? : UInt8 → Option α) (rest : Bytes) :
    list? read ofByte? (list write xs ++ rest) =
      some (xs.take (xs.length % UInt32.size),
        (xs.drop (xs.length % UInt32.size)).flatMap write ++ rest) := by
  have htold : (xs.take (xs.length % UInt32.size)).length = xs.length % UInt32.size :=
    List.length_take_of_le (Nat.mod_le _ _)
  have htaken : ∀ x ∈ xs.take (xs.length % UInt32.size), ReadsBack write read x :=
    fun x hx => h x (List.mem_of_mem_take hx)
  have hread := many?_flatMap htaken ((xs.drop (xs.length % UInt32.size)).flatMap write ++ rest)
  rw [htold, ← List.append_assoc, ← List.flatMap_append, List.take_append_drop] at hread
  have hhead := head?_listHead xs.length (xs.flatMap write ++ rest)
  rw [list, list?, List.append_assoc, hhead]
  exact hread

/-- A list that can be counted reads back if its values do. -/
theorem readsBack_list {xs : List α} (hlength : xs.length < UInt32.size)
    (h : ∀ x ∈ xs, ReadsBack write read x) (ofByte? : UInt8 → Option α) :
    ReadsBack (list write) (list? read ofByte?) xs := by
  intro rest
  rw [list?_list h, Nat.mod_eq_of_lt hlength, List.take_length, List.drop_length]
  rfl

/-- The bytes of the value do not start as nil does. -/
def IsShown (write : α → Bytes) (x : α) : Prop :=
  ∀ rest more, head? (write x ++ rest) ≠ some (.nil, more)

theorem isShown_text (s : String) : IsShown text s := by
  intro rest more
  simp [text, head?_textHead]

theorem isShown_word (n : UInt32) : IsShown (fun n : UInt32 => number n.toNat) n := by
  intro rest more
  simp [head?_number n.toNat_lt rest]

/-- A value that may be missing reads back if it is not taken for nil. -/
theorem readsBack_optional {x : Option α} (h : ∀ y ∈ x, ReadsBack write read y)
    (hshown : ∀ y ∈ x, IsShown write y) :
    ReadsBack (optional write) (optional? read) x := by
  intro rest
  cases x with
  | none => rfl
  | some y =>
    show optional? read (write y ++ rest) = some (some y, rest)
    unfold optional?
    split
    · next more hhead => exact absurd hhead (hshown y rfl rest more)
    · rw [h y rfl rest]
      rfl

/-- A map that can be counted reads back if its keys and values do. -/
theorem readsBack_table {writeKey : β → Bytes} {readKey : Bytes → Option (β × Bytes)}
    {es : List (β × α)} (hlength : es.length < UInt32.size)
    (hkeys : ∀ e ∈ es, ReadsBack writeKey readKey e.1)
    (hvalues : ∀ e ∈ es, ReadsBack write read e.2) :
    ReadsBack (table writeKey write) (table? readKey read) es := by
  have hitems : ∀ e ∈ es, ReadsBack (fun e : β × α => writeKey e.1 ++ write e.2)
      (item? readKey read) e := by
    intro e he rest
    simp [item?, hkeys e he (write e.2 ++ rest), hvalues e he rest]
  intro rest
  have hhead := head?_mapHead es.length
    ((es.flatMap fun e => writeKey e.1 ++ write e.2) ++ rest)
  rw [Nat.mod_eq_of_lt hlength] at hhead
  simp [table, table?, hhead, many?_flatMap hitems]

end Values

/-! ## Names and records -/

/-- A name that stands among the names is read as its place. -/
theorem field?_text {names : List String} {name : String} {place : Nat}
    (h : (Text.utf8 name).length < UInt32.size)
    (hplace : placeOf? names (Text.utf8 name) = some place) (rest : Bytes) :
    field? names (text name ++ rest) = some (some place, rest) := by
  have hhead := head?_textHead (Text.utf8 name).length (Text.utf8 name ++ rest)
  rw [Nat.mod_eq_of_lt h] at hhead
  simp [field?, text, content?, hhead, take?_append, hplace]

namespace Record

variable {parts α : Type}

/-- Read one after the other, the fields make of some parts other parts. -/
inductive Fills (r : Record parts α) : parts → List (String × Bytes) → parts → Prop where
  | nil (p : parts) : Fills r p [] p
  | cons {p q z : parts} {name : String} {bytes : Bytes} {fields : List (String × Bytes)}
      (place : Nat) (hname : placeOf? r.names (Text.utf8 name) = some place)
      (hlength : (Text.utf8 name).length < UInt32.size)
      (hfill : ∀ rest, r.fill? place p (bytes ++ rest) = some (q, rest))
      (hfields : Fills r q fields z) : Fills r p ((name, bytes) :: fields) z

theorem Fills.named? {r : Record parts α} {p z : parts} {fields : List (String × Bytes)}
    (h : r.Fills p fields z) (room : Nat) (rest : Bytes) :
    r.named? room fields.length p ((fields.flatMap fun e => text e.1 ++ e.2) ++ rest) =
      some (z, rest) := by
  induction h with
  | nil p => rfl
  | cons place hname hlength hfill hfields ih =>
    simp [Record.named?, field?_text hlength hname, hfill, ih]

/-- A record reads back if its fields fill the parts that make it up. -/
theorem readsBack {r : Record parts α} {write : α → Bytes} {x : α} {z : parts}
    {fields : List (String × Bytes)} (hwrite : write x = record fields)
    (hlength : fields.length < UInt32.size) (hfills : r.Fills r.blank fields z)
    (hcomplete : r.complete? z = some x) (room : Nat) : ReadsBack write (r.read? room) x := by
  intro rest
  have hhead := head?_mapHead fields.length ((fields.flatMap fun e => text e.1 ++ e.2) ++ rest)
  rw [Nat.mod_eq_of_lt hlength] at hhead
  simp [hwrite, record, table, read?, hhead, hfills.named? room rest, hcomplete]

end Record

end MessagePack

end FleetOrders
