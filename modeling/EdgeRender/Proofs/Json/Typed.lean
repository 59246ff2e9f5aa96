import EdgeRender.Json.Typed
import EdgeRender.Proofs.Json.Reading
import Mathlib.Algebra.Group.Nat.Defs

/-! # Reading values of known types

A reader of values of a type reads what was written for one of them, if whatever comes after is
separated from it. Lists are read if their items are, and members of an object one by one.
-/
namespace EdgeRender.Json

open EdgeRender.Text

/-! ## Values in front of a separator -/

def Value.bytes (v : Value) : List UInt8 := Utf8.encode v.write

/-- A byte that a value, and not the end of a list, begins with. -/
def LeadsValue (b : UInt8) : Prop := isBlankByte b = false ∧ b ≠ closeBracket

/-- The reader takes the bytes of `v` for `x`, if what comes after is separated from them. -/
structure Reads (r : Reader α) (v : Value) (x : α) : Prop where
  lead : ∃ b bytes, v.bytes = b :: bytes ∧ LeadsValue b
  read : ∀ place {rest}, Separated rest →
    r ⟨place, v.bytes ++ rest⟩ = .ok (x, ⟨place.over v.bytes, rest⟩)

/-- The whole text of a value is read. -/
theorem Reads.run {r : Reader α} {v : Value} {x : α} (h : Reads r v x) : r.run v.bytes = .ok x := by
  have hread := h.read ⟨1, 0⟩ separated_nil
  rw [List.append_nil] at hread
  have hall : (do let x ← r; finish; pure x : Reader α) (.start v.bytes) =
      .ok (x, ⟨Place.over ⟨1, 0⟩ v.bytes, []⟩) := by
    rw [Cursor.start, bind_of_ok hread]
    rfl
  rw [Reader.run, hall]

/-- What is read of a value may be made into something else. -/
theorem Reads.map {r : Reader α} {v : Value} {x : α} (h : Reads r v x) (f : α → β) :
    Reads (f <$> r) v (f x) :=
  ⟨h.lead, fun place _ hrest => map_of_ok (h.read place hrest)⟩

/-- Only the first byte of a value is looked at to tell what it is. -/
theorem Reads.peekValue {r : Reader α} {v : Value} {x : α} (h : Reads r v x) (place : Place)
    (rest : List UInt8) : ∃ b, v.bytes.head? = some b ∧
      peekToken? ⟨place, v.bytes ++ rest⟩ = .ok (some b, ⟨place, v.bytes ++ rest⟩) := by
  obtain ⟨b, bytes, hbytes, hlead⟩ := h.lead
  refine ⟨b, by rw [hbytes]; rfl, ?_⟩
  rw [hbytes, List.cons_append]
  exact peekToken?_cons hlead.1 place _

/-! ## Brackets -/

def separator (first : Bool) : List UInt8 := if first then [] else [comma]

/-- The bytes of the items of an array, behind the bracket or behind an item. -/
def itemBytes : Bool → List Value → List UInt8
  | _, [] => []
  | first, v :: vs => separator first ++ v.bytes ++ itemBytes false vs

/-- The bytes of a member of an object, behind the brace or behind another member. -/
def memberText (first : Bool) (k : String) (v : Value) : List UInt8 :=
  separator first ++ Utf8.encode (writeString k) ++ ':'.toUInt8 :: v.bytes

/-- The bytes of the members of an object, behind the brace or behind a member. -/
def memberBytes : Bool → List (String × Value) → List UInt8
  | _, [] => []
  | first, (k, v) :: ms => memberText first k v ++ memberBytes false ms

theorem length_le_memberBytes (first : Bool) (ms : List (String × Value)) :
    ms.length ≤ (memberBytes first ms).length := by
  induction ms generalizing first with
  | nil => exact Nat.le_refl 0
  | cons m ms ih =>
    obtain ⟨k, v⟩ := m
    have hrest := ih false
    simp only [memberBytes, memberText, List.length_append, List.length_cons]
    omega

theorem encode_writeItems (vs : List Value) : Utf8.encode (writeItems vs) = itemBytes false vs := by
  induction vs with
  | nil => rfl
  | cons v vs ih =>
    rw [writeItems, List.cons_append, Utf8.encode_cons, Utf8.encode_append, ih]
    rfl

theorem encode_writeMembers (ms : List (String × Value)) :
    Utf8.encode (writeMembers ms) = memberBytes false ms := by
  induction ms with
  | nil => rfl
  | cons m ms ih =>
    obtain ⟨k, v⟩ := m
    simp only [writeMembers, memberBytes, memberText, List.cons_append, Utf8.encode_cons,
      Utf8.encode_append, ih]
    rfl

theorem bytes_array (vs : List Value) :
    (Value.array vs).bytes = openBracket :: (itemBytes true vs ++ [closeBracket]) := by
  cases vs with
  | nil => rfl
  | cons v vs =>
    simp only [Value.bytes, Value.write, List.cons_append, Utf8.encode_cons, Utf8.encode_append,
      encode_writeItems]
    rfl

theorem bytes_object (ms : List (String × Value)) :
    (Value.object ms).bytes = openBrace :: (memberBytes true ms ++ [closeBrace]) := by
  cases ms with
  | nil => rfl
  | cons m ms =>
    obtain ⟨k, v⟩ := m
    simp only [Value.bytes, Value.write, List.cons_append, Utf8.encode_cons, Utf8.encode_append,
      encode_writeMembers]
    simp [memberBytes, memberText, separator, Value.bytes]
    rfl

theorem closing_of_ok {past : Cursor → Cursor} {close : Reader Unit} {body : Reader α} {x : α}
    {c c' c'' : Cursor} (hbody : body c = .ok (x, c')) (hclose : close c' = .ok ((), c'')) :
    closing past close body c = .ok (x, c'') := by
  simp only [closing, hbody, hclose]

theorem settled_of_ok {body : Reader α} {x : α} {c c' : Cursor} (h : body c = .ok (x, c')) :
    settled body c = .ok (x, c') :=
  closing_of_ok h rfl

/-! ## Strings and simple values -/

theorem bytes_string (s : String) :
    (Value.string s).bytes =
      quoteMark :: Utf8.encode (s.toList.flatMap escapeChar ++ ['"']) := by
  simp only [Value.bytes, Value.write, writeString, List.cons_append, Utf8.encode_cons]
  rfl

theorem leadsValue_quoteMark : LeadsValue quoteMark := by
  unfold LeadsValue
  decide

/-- A written string is read behind its opening quote, which may be passed over. -/
theorem consumes_writeString (s : String) :
    Consumes (do skipByte; stringBody) (Utf8.encode (writeString s)) s := by
  intro place rest
  have hbytes : Utf8.encode (writeString s) = _ := bytes_string s
  have hskip : skipByte ⟨place, Utf8.encode (writeString s) ++ rest⟩ =
      .ok ((), ⟨place.after quoteMark,
        Utf8.encode (s.toList.flatMap escapeChar ++ ['"']) ++ rest⟩) := by
    rw [hbytes]
    rfl
  rw [bind_of_ok hskip, consumes_stringBody s, hbytes, Place.over_cons]

theorem reads_string (s : String) : Reads string (.string s) s where
  lead := ⟨quoteMark, _, bytes_string s, leadsValue_quoteMark⟩
  read place rest _ := by
    have hpeek : peekValue ⟨place, (Value.string s).bytes ++ rest⟩ =
        .ok (quoteMark, ⟨place, (Value.string s).bytes ++ rest⟩) := by
      rw [bytes_string]
      exact peekValue_cons leadsValue_quoteMark.1 place _
    rw [string, bind_of_ok hpeek, if_pos rfl]
    exact consumes_writeString s place rest

theorem reads_boolean (b : Bool) : Reads boolean (.boolean b) b := by
  cases b with
  | true => exact ⟨⟨_, _, rfl, by unfold LeadsValue; decide⟩, fun _ _ _ => rfl⟩
  | false => exact ⟨⟨_, _, rfl, by unfold LeadsValue; decide⟩, fun _ _ _ => rfl⟩

theorem bytes_natural (n : Nat) : (Value.natural n).bytes = digitBytes n := by
  have htext : (Number.integer n).text.toList = Nat.toDigits 10 n := by
    show (toString (n : Int)).toList = _
    simp [toString, Int.repr, Nat.repr]
  rw [Value.bytes, Value.natural, Value.write, htext]
  rfl

theorem ne_of_isDigitByte {b b' : UInt8} (h : isDigitByte b = true)
    (h' : isDigitByte b' = false) : b ≠ b' := by
  rintro rfl
  rw [h] at h'
  contradiction

theorem leadsValue_of_isDigitByte {b : UInt8} (h : isDigitByte b = true) : LeadsValue b := by
  refine ⟨?_, ne_of_isDigitByte h (by decide)⟩
  simp only [isBlankByte, Bool.or_eq_false_iff, beq_eq_false_iff_ne]
  refine ⟨⟨⟨?_, ?_⟩, ?_⟩, ?_⟩ <;> exact ne_of_isDigitByte h (by decide)

/-- A number is read that fits into the bits asked for. -/
theorem reads_natural {bits n : Nat} (hbits : bits ≤ 64) (h : n < 2 ^ bits) :
    Reads (natural bits) (.natural n) n := by
  obtain ⟨b, bytes, hbytes, hdigit⟩ := digitBytes_cons n
  have hlead : LeadsValue b := leadsValue_of_isDigitByte hdigit
  refine ⟨⟨b, bytes, by rw [bytes_natural, hbytes], hlead⟩, fun place rest hrest => ?_⟩
  have hmax : n ≤ maxNatural := by
    have hpow : 2 ^ bits ≤ 2 ^ 64 := Nat.pow_le_pow_right (by decide) hbits
    unfold maxNatural
    omega
  have hpeek : peekValue ⟨place, digitBytes n ++ rest⟩ =
      .ok (b, ⟨place, digitBytes n ++ rest⟩) := by
    rw [hbytes]
    exact peekValue_cons hlead.1 place _
  rw [bytes_natural, natural, bind_of_ok hpeek, if_pos (by simp [startsNumber, hdigit]),
    bind_of_ok (number_digitBytes hmax hrest place)]
  dsimp only
  rw [if_pos ⟨Int.natCast_nonneg n, by simpa using h⟩]
  rfl

/-- A value that does not look like null is read as itself. -/
theorem Reads.nullable {item : Reader α} {v : Value} {x : α} (h : Reads item v x)
    (hn : v.bytes.head? ≠ some 'n'.toUInt8) : Reads (nullable item) v (some x) where
  lead := h.lead
  read place rest hrest := by
    obtain ⟨b, hb, hpeek⟩ := h.peekValue place rest
    rw [Json.nullable, bind_of_ok hpeek, if_neg (hb ▸ hn)]
    exact map_of_ok (h.read place hrest)

/-- A name is read as what it stands for. -/
theorem reads_choice {known : List (String × α)} {name : String} {x : α}
    (h : known.lookup name = some x) : Reads (choice known) (.string name) x where
  lead := ⟨quoteMark, _, bytes_string name, leadsValue_quoteMark⟩
  read place rest _ := by
    obtain ⟨b, hb, hpeek⟩ := (reads_string name).peekValue place rest
    obtain rfl : quoteMark = b := by
      rw [bytes_string] at hb
      exact Option.some.inj hb
    have hvariant : variant known ⟨place, (Value.string name).bytes ++ rest⟩ =
        .ok (x, ⟨place.over (Value.string name).bytes, rest⟩) := by
      have hname := consumes_writeString name place rest
      refine settled_of_ok ?_
      rw [← bind_assoc]
      refine (bind_of_ok hname).trans ?_
      rw [h]
      rfl
    rw [choice, bind_of_ok hpeek]
    dsimp only
    rw [if_pos rfl, hvariant]

/-! ## Arrays -/

/-- The text of an item is found behind the separator in front of it. -/
theorem nextItem_separator (first : Bool) {b : UInt8} (h : LeadsValue b) (place : Place)
    (rest : List UInt8) :
    nextItem first ⟨place, separator first ++ b :: rest⟩ =
      .ok (true, ⟨place.over (separator first), b :: rest⟩) := by
  obtain ⟨hblank, hbracket⟩ := h
  cases first with
  | true =>
    show nextItem true ⟨place, b :: rest⟩ = .ok (true, ⟨place, b :: rest⟩)
    rw [nextItem, bind_of_ok (peekToken?_cons hblank place rest)]
    dsimp only
    rw [if_neg hbracket, if_pos rfl]
    rfl
  | false =>
    show nextItem false ⟨place, comma :: b :: rest⟩ = .ok (true, ⟨place.after comma, b :: rest⟩)
    have hskip : skipByte ⟨place, comma :: b :: rest⟩ = .ok ((), ⟨place.after comma, b :: rest⟩) :=
      rfl
    rw [nextItem, bind_of_ok (peekToken?_cons (by decide) place (b :: rest))]
    dsimp only
    rw [if_neg (by decide), if_neg (by decide), if_pos rfl, bind_of_ok hskip,
      bind_of_ok (peekToken?_cons hblank _ rest)]
    dsimp only
    rw [if_neg hbracket]
    rfl

theorem separated_itemBytes (vs : List Value) (rest : List UInt8) :
    Separated (itemBytes false vs ++ closeBracket :: rest) := by
  cases vs with
  | nil => exact separated_cons (.inr (.inl rfl)) rest
  | cons v vs => exact separated_cons (.inl rfl) _

theorem itemsFrom_reads {item : Reader α} {encode : α → Value} {xs : List α}
    (h : ∀ x ∈ xs, Reads item (encode x) x) {bound : Nat} (hbound : xs.length < bound)
    (first : Bool) (place : Place) (rest : List UInt8) :
    itemsFrom item bound first
        ⟨place, itemBytes first (xs.map encode) ++ closeBracket :: rest⟩ =
      .ok (xs, ⟨place.over (itemBytes first (xs.map encode)), closeBracket :: rest⟩) := by
  induction xs generalizing bound first place with
  | nil =>
    obtain ⟨bound, rfl⟩ := Nat.exists_eq_add_one_of_ne_zero (Nat.ne_of_gt hbound)
    cases first <;> rfl
  | cons x xs ih =>
    obtain ⟨bound, rfl⟩ :=
      Nat.exists_eq_add_one_of_ne_zero (Nat.ne_of_gt (Nat.zero_lt_of_lt hbound))
    obtain ⟨hlead, hread⟩ := h x (by simp)
    obtain ⟨b, bytes, hbytes, hb⟩ := hlead
    have hnext := nextItem_separator first hb place
      (bytes ++ (itemBytes false (xs.map encode) ++ closeBracket :: rest))
    rw [← List.cons_append, ← hbytes] at hnext
    have hbound' : xs.length < bound := by
      simp at hbound
      omega
    have hrest := ih (fun x' hx' => h x' (by simp [hx'])) hbound' false
    rw [List.map_cons, itemBytes, List.append_assoc, List.append_assoc, itemsFrom, bind_of_ok hnext,
      if_pos rfl, bind_of_ok (hread _ (separated_itemBytes _ rest)), bind_of_ok (hrest _),
      Place.over_append, Place.over_append]
    rfl

theorem length_le_itemBytes {item : Reader α} {encode : α → Value} {xs : List α}
    (h : ∀ x ∈ xs, Reads item (encode x) x) (first : Bool) :
    xs.length ≤ (itemBytes first (xs.map encode)).length := by
  induction xs generalizing first with
  | nil => exact Nat.le_refl 0
  | cons x xs ih =>
    obtain ⟨b, bytes, hbytes, -⟩ := (h x (by simp)).lead
    have hrest := ih (fun x' hx' => h x' (by simp [hx'])) false
    simp only [List.map_cons, itemBytes, List.length_append, List.length_cons, hbytes]
    omega

/-- A list is read if its items are. -/
theorem reads_list {item : Reader α} {encode : α → Value} {xs : List α}
    (h : ∀ x ∈ xs, Reads item (encode x) x) : Reads (list item) (.array (xs.map encode)) xs := by
  have hlead : LeadsValue openBracket := by
    unfold LeadsValue
    decide
  refine ⟨⟨_, _, bytes_array _, hlead⟩, fun place rest _ => ?_⟩
  set items := itemBytes true (xs.map encode) with hitems
  have htext : (Value.array (xs.map encode)).bytes ++ rest =
      openBracket :: (items ++ closeBracket :: rest) := by
    rw [bytes_array]
    simp [hitems]
  have hbound : xs.length < (items ++ closeBracket :: rest).length + 1 := by
    have hlength := length_le_itemBytes h true
    rw [← hitems] at hlength
    rw [List.length_append]
    omega
  have hskip : skipByte ⟨place, openBracket :: (items ++ closeBracket :: rest)⟩ =
      .ok ((), ⟨place.after openBracket, items ++ closeBracket :: rest⟩) := rfl
  have hleft : bytesLeft ⟨place.after openBracket, items ++ closeBracket :: rest⟩ =
      .ok (_, ⟨place.after openBracket, items ++ closeBracket :: rest⟩) := rfl
  have hbody := itemsFrom_reads h hbound true (place.after openBracket) rest
  have hclose : ∀ place, closeArray ⟨place, closeBracket :: rest⟩ =
      .ok ((), ⟨place.after closeBracket, rest⟩) := fun _ => rfl
  rw [htext, list, bind_of_ok (peekValue_cons hlead.1 place _), if_pos rfl, arrayOf,
    bind_of_ok hskip, bind_of_ok hleft, closing_of_ok hbody (hclose _), bytes_array,
    Place.over_cons, Place.over_append]
  rfl

/-! ## Objects -/

/-- A key is found behind the separator in front of it. -/
theorem nextKey?_separator (first : Bool) (key : String) (place : Place) (rest : List UInt8) :
    nextKey? first ⟨place, separator first ++ (Utf8.encode (writeString key) ++ rest)⟩ =
      .ok (some key, ⟨place.over (separator first ++ Utf8.encode (writeString key)), rest⟩) := by
  have hquote : ∀ place, peekToken? ⟨place, Utf8.encode (writeString key) ++ rest⟩ =
      .ok (some quoteMark, ⟨place, Utf8.encode (writeString key) ++ rest⟩) := by
    intro place
    have hbytes : Utf8.encode (writeString key) = _ := bytes_string key
    rw [hbytes]
    exact peekToken?_cons (by decide) place _
  have hkey : ∀ place, (skipByte >>= fun _ => some <$> stringBody : Reader (Option String))
      ⟨place, Utf8.encode (writeString key) ++ rest⟩ =
      .ok (some key, ⟨place.over (Utf8.encode (writeString key)), rest⟩) := by
    intro place
    rw [← map_bind]
    exact map_of_ok (consumes_writeString key place rest)
  cases first with
  | true =>
    show nextKey? true ⟨place, Utf8.encode (writeString key) ++ rest⟩ = _
    rw [nextKey?, bind_of_ok (hquote place)]
    dsimp only
    rw [if_neg (by decide), if_pos rfl, if_pos rfl]
    exact hkey place
  | false =>
    show nextKey? false ⟨place, comma :: (Utf8.encode (writeString key) ++ rest)⟩ = _
    have hskip : skipByte ⟨place, comma :: (Utf8.encode (writeString key) ++ rest)⟩ =
        .ok ((), ⟨place.after comma, Utf8.encode (writeString key) ++ rest⟩) := rfl
    rw [nextKey?, bind_of_ok (peekToken?_cons (by decide) place _)]
    dsimp only
    rw [if_neg (by decide), if_neg (by decide), if_pos rfl, bind_of_ok hskip,
      bind_of_ok (hquote _)]
    dsimp only
    rw [if_pos rfl]
    exact hkey (place.after comma)

variable {fields : List (Field σ)} {field : Field σ} {set : σ → σ} {v : Value} {seen : List String}

/-- A member of a field not yet given gives the field its value. -/
theorem recordMembers_known (hfind : fields.find? (·.name == field.name) = some field)
    (hnew : field.name ∉ seen) (hread : Reads field.read v set) (bound : Nat) (first : Bool)
    (y : σ) (place : Place) {rest : List UInt8} (hrest : Separated rest) :
    recordMembers fields (bound + 1) first seen y
        ⟨place, memberText first field.name v ++ rest⟩ =
      recordMembers fields bound false (field.name :: seen) (set y)
        ⟨place.over (memberText first field.name v), rest⟩ := by
  have hkey := nextKey?_separator first field.name place ([':'.toUInt8] ++ (v.bytes ++ rest))
  have hcolon :=
    consumes_colon (place.over (separator first ++ Utf8.encode (writeString field.name)))
    (v.bytes ++ rest)
  have hvalue := hread.read
    ((place.over (separator first ++ Utf8.encode (writeString field.name))).over [':'.toUInt8])
    hrest
  have htext : memberText first field.name v ++ rest =
      separator first ++ (Utf8.encode (writeString field.name) ++
        ([':'.toUInt8] ++ (v.bytes ++ rest))) := by
    simp [memberText]
  rw [htext, recordMembers, bind_of_ok hkey]
  dsimp only
  rw [hfind]
  dsimp only
  rw [if_neg hnew, bind_of_ok hcolon, bind_of_ok hvalue]
  simp [memberText]

/-- At the closing brace the record is as the members have left it. -/
theorem recordMembers_end (bound : Nat) (first : Bool) (y : σ) (place : Place)
    (rest : List UInt8) :
    recordMembers fields (bound + 1) first seen y ⟨place, closeBrace :: rest⟩ =
      .ok ((seen, y), ⟨place, closeBrace :: rest⟩) := by
  cases first <;> rfl

theorem separated_memberBytes (ms : List (String × Value)) (rest : List UInt8) :
    Separated (memberBytes false ms ++ closeBrace :: rest) := by
  cases ms with
  | nil => exact separated_cons (.inr (.inr rfl)) rest
  | cons m ms => exact separated_cons (.inl rfl) _

end EdgeRender.Json
