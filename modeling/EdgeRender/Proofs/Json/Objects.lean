import EdgeRender.Json.Document
import EdgeRender.Proofs.Json.Typed
import Mathlib.Data.List.Induction
import Mathlib.Data.List.Nodup

/-! # Objects that are read as values

The text of an object of strings and whole numbers is read back as an object. Its members are
ordered by name then, and of several members of one name the last is kept.
-/
namespace EdgeRender.Json

open EdgeRender.Text

/-! ## Members by name -/

/-- The names are in their order, and each is there once. -/
def Ordered (ms : List (String × α)) : Prop := ms.Pairwise fun m m' => m.1 < m'.1

theorem Ordered.nodup {ms : List (String × α)} (h : Ordered ms) : (ms.map (·.1)).Nodup := by
  refine List.pairwise_map.mpr (h.imp fun hlt heq => ?_)
  rw [heq] at hlt
  exact String.lt_irrefl _ hlt

theorem mem_insertMember {k : String} {v : α} {m : String × α} {ms : List (String × α)}
    (h : m ∈ insertMember k v ms) : m = (k, v) ∨ m ∈ ms := by
  induction ms with
  | nil => exact .inl (List.mem_singleton.mp h)
  | cons m' ms ih =>
    obtain ⟨k', v'⟩ := m'
    unfold insertMember at h
    split_ifs at h with hlt heq
    · exact List.mem_cons.mp h
    · exact (List.mem_cons.mp h).imp_right (List.mem_cons_of_mem _)
    · rcases List.mem_cons.mp h with rfl | h
      · exact .inr List.mem_cons_self
      · exact (ih h).imp_right (List.mem_cons_of_mem _)

theorem Ordered.insertMember {ms : List (String × α)} (h : Ordered ms) (k : String) (v : α) :
    Ordered (insertMember k v ms) := by
  induction ms with
  | nil => exact List.pairwise_singleton _ _
  | cons m ms ih =>
    obtain ⟨k', v'⟩ := m
    obtain ⟨hfirst, hrest⟩ := List.pairwise_cons.mp h
    unfold Json.insertMember
    split_ifs with hlt heq
    · refine List.pairwise_cons.mpr ⟨fun m hm => ?_, h⟩
      rcases List.mem_cons.mp hm with rfl | hm
      · exact hlt
      · exact String.lt_trans hlt (hfirst m hm)
    · subst heq
      exact List.pairwise_cons.mpr ⟨hfirst, hrest⟩
    · refine List.pairwise_cons.mpr ⟨fun m hm => ?_, ih hrest⟩
      rcases mem_insertMember hm with rfl | hm
      · exact Std.lt_of_le_of_ne (String.not_lt.mp hlt) (Ne.symm heq)
      · exact hfirst m hm

theorem sortMembers_concat (ms : List (String × α)) (k : String) (v : α) :
    sortMembers (ms ++ [(k, v)]) = insertMember k v (sortMembers ms) := by
  simp [sortMembers]

theorem ordered_sortMembers (ms : List (String × α)) : Ordered (sortMembers ms) := by
  induction ms using List.reverseRecOn with
  | nil => exact List.Pairwise.nil
  | append_singleton ms m ih =>
    rw [sortMembers_concat]
    exact ih.insertMember m.1 m.2

/-- The last member of a name is kept. -/
theorem lookup_sortMembers (ms : List (String × α)) (name : String) :
    (sortMembers ms).lookup name = ms.reverse.lookup name := by
  induction ms using List.reverseRecOn with
  | nil => rfl
  | append_singleton ms m ih =>
    rw [sortMembers_concat, lookup_insertMember, ih, List.reverse_concat, lookup_member]

theorem mem_sortMembers {m : String × α} {ms : List (String × α)} (h : m ∈ sortMembers ms) :
    m ∈ ms := by
  induction ms using List.reverseRecOn with
  | nil => exact h
  | append_singleton ms m' ih =>
    rw [sortMembers_concat] at h
    rcases mem_insertMember h with rfl | h
    · exact List.mem_append_right _ List.mem_cons_self
    · exact List.mem_append_left _ (ih h)

theorem lookup_eq_some_iff_mem {ms : List (String × α)} (h : (ms.map (·.1)).Nodup) {name : String}
    {v : α} : ms.lookup name = some v ↔ (name, v) ∈ ms := by
  induction ms with
  | nil => simp
  | cons m ms ih =>
    obtain ⟨k, v'⟩ := m
    obtain ⟨hfirst, hrest⟩ := List.nodup_cons.mp h
    rw [lookup_member, List.mem_cons]
    by_cases hname : name = k
    · subst hname
      have hnot : (name, v) ∉ ms := fun hm => hfirst (List.mem_map_of_mem (f := (·.1)) hm)
      simp [hnot, eq_comm]
    · rw [if_neg hname, ih hrest]
      simp [hname]

theorem lookup_eq_none_iff_notMem {ms : List (String × α)} {name : String} :
    ms.lookup name = none ↔ name ∉ ms.map (·.1) := by
  induction ms with
  | nil => simp
  | cons m ms ih =>
    obtain ⟨k, v⟩ := m
    by_cases h : name = k <;> simp [lookup_member, h, ih]

/-- Where each name is there once, its first member is its last. -/
theorem lookup_reverse {ms : List (String × α)} (h : (ms.map (·.1)).Nodup) (name : String) :
    ms.reverse.lookup name = ms.lookup name := by
  have hreverse : (ms.reverse.map (·.1)).Nodup := by
    rw [List.map_reverse]
    exact List.nodup_reverse.mpr h
  refine Option.ext fun v => ?_
  rw [lookup_eq_some_iff_mem hreverse, lookup_eq_some_iff_mem h, List.mem_reverse]

/-- What is found under each name is all there is to ordered members. -/
theorem Ordered.ext {ms ms' : List (String × α)} (h : Ordered ms) (h' : Ordered ms')
    (hlookup : ∀ name, ms.lookup name = ms'.lookup name) : ms = ms' := by
  have hmem : ∀ m, m ∈ ms ↔ m ∈ ms' := by
    rintro ⟨name, v⟩
    rw [← lookup_eq_some_iff_mem h.nodup, hlookup, lookup_eq_some_iff_mem h'.nodup]
  have hperm : ms.Perm ms' :=
    (List.perm_ext_iff_of_nodup h.nodup.of_map h'.nodup.of_map).mpr hmem
  exact hperm.eq_of_pairwise (fun _ _ _ _ hlt hgt => absurd hgt (String.lt_asymm hlt)) h h'

/-! ## Reading -/

/-- Strings and natural numbers of 64 bits. -/
inductive Plain : Value → Prop
  | string (s : String) : Plain (.string s)
  | natural {n : Nat} (h : n ≤ maxNatural) : Plain (.natural n)

theorem value_eq_valueOf (depth : Nat) : ∃ inner?, value depth = valueOf inner? := by
  cases depth with
  | zero => exact ⟨none, rfl⟩
  | succ depth => exact ⟨some (value depth), rfl⟩

theorem Plain.reads {v : Value} (h : Plain v) (depth : Nat) : Reads (value depth) v v := by
  obtain ⟨inner?, hvalue⟩ := value_eq_valueOf depth
  rw [hvalue]
  -- The first byte tells the reader which kind of value comes.
  cases h with
  | string s =>
    refine ⟨⟨quoteMark, _, bytes_string s, leadsValue_quoteMark⟩, fun place rest _ => ?_⟩
    have hpeek : peekValue ⟨place, (Value.string s).bytes ++ rest⟩ =
        .ok (quoteMark, ⟨place, (Value.string s).bytes ++ rest⟩) := by
      rw [bytes_string]
      exact peekValue_cons leadsValue_quoteMark.1 place _
    unfold valueOf
    rw [bind_of_ok hpeek, if_neg (by decide), if_neg (by decide), if_neg (by decide),
      if_neg (by decide), if_neg (by decide), if_neg (by decide), if_pos rfl, ← map_bind]
    exact map_of_ok (consumes_writeString s place rest)
  | @natural n hn =>
    obtain ⟨b, bytes, hbytes, hdigit⟩ := digitBytes_cons n
    have hlead : LeadsValue b := leadsValue_of_isDigitByte hdigit
    refine ⟨⟨b, bytes, by rw [bytes_natural, hbytes], hlead⟩, fun place rest hrest => ?_⟩
    have hpeek : peekValue ⟨place, digitBytes n ++ rest⟩ =
        .ok (b, ⟨place, digitBytes n ++ rest⟩) := by
      rw [hbytes]
      exact peekValue_cons hlead.1 place _
    have hne : ∀ {b'}, isDigitByte b' = false → b ≠ b' := ne_of_isDigitByte hdigit
    rw [bytes_natural]
    unfold valueOf
    rw [bind_of_ok hpeek, if_neg (hne (by decide)), if_neg (hne (by decide)),
      if_neg (hne (by decide)), if_neg (hne (by decide)), if_neg (hne (by decide)),
      if_pos (by simp [startsNumber, hdigit])]
    exact map_of_ok (number_digitBytes hn hrest place)

/-- Members are read one after another. -/
theorem membersFrom_reads {item : Reader Value} {ms : List (String × Value)}
    (h : ∀ m ∈ ms, Reads item m.2 m.2) {bound : Nat} (hbound : ms.length < bound) (first : Bool)
    (place : Place) (rest : List UInt8) :
    membersFrom item bound first ⟨place, memberBytes first ms ++ closeBrace :: rest⟩ =
      .ok (ms, ⟨place.over (memberBytes first ms), closeBrace :: rest⟩) := by
  induction ms generalizing bound first place with
  | nil =>
    obtain ⟨bound, rfl⟩ := Nat.exists_eq_add_one_of_ne_zero (Nat.ne_of_gt hbound)
    cases first <;> rfl
  | cons m ms ih =>
    obtain ⟨k, v⟩ := m
    obtain ⟨bound, rfl⟩ :=
      Nat.exists_eq_add_one_of_ne_zero (Nat.ne_of_gt (Nat.zero_lt_of_lt hbound))
    have hread := h (k, v) List.mem_cons_self
    have hbound' : ms.length < bound := Nat.lt_of_succ_lt_succ hbound
    have hmembers := ih (fun m hm => h m (List.mem_cons_of_mem _ hm)) hbound' false
    have htext : memberBytes first ((k, v) :: ms) ++ closeBrace :: rest =
        separator first ++ (Utf8.encode (writeString k) ++ ([':'.toUInt8] ++ (v.bytes ++
          (memberBytes false ms ++ closeBrace :: rest)))) := by
      simp [memberBytes, memberText]
    rw [htext, membersFrom, bind_of_ok (nextKey?_separator first k place _)]
    dsimp only
    rw [bind_of_ok (consumes_colon _ _), bind_of_ok (hread.read _ (separated_memberBytes ms rest)),
      bind_of_ok (hmembers _)]
    have hover : place.over (memberBytes first ((k, v) :: ms)) =
        (((place.over (separator first ++ Utf8.encode (writeString k))).over
          [':'.toUInt8]).over v.bytes).over (memberBytes false ms) := by
      simp [memberBytes, memberText]
    rw [hover]
    rfl

/-- The members of an object of plain values are read as they were written. -/
theorem reads_objectOf {ms : List (String × Value)} (h : ∀ m ∈ ms, Plain m.2) (depth : Nat) :
    Reads (objectOf (value depth)) (.object ms) ms := by
  have hlead : LeadsValue openBrace := by
    unfold LeadsValue
    decide
  refine ⟨⟨_, _, bytes_object ms, hlead⟩, fun place rest _ => ?_⟩
  set members := memberBytes true ms with hmembers
  have htext : (Value.object ms).bytes ++ rest = openBrace :: (members ++ closeBrace :: rest) := by
    rw [bytes_object]
    simp [hmembers]
  have hbound : ms.length < (members ++ closeBrace :: rest).length + 1 := by
    have hlength := length_le_memberBytes true ms
    rw [← hmembers] at hlength
    rw [List.length_append]
    omega
  have hskip : skipByte ⟨place, openBrace :: (members ++ closeBrace :: rest)⟩ =
      .ok ((), ⟨place.after openBrace, members ++ closeBrace :: rest⟩) := rfl
  have hleft : bytesLeft ⟨place.after openBrace, members ++ closeBrace :: rest⟩ =
      .ok (_, ⟨place.after openBrace, members ++ closeBrace :: rest⟩) := rfl
  have hbody := membersFrom_reads (fun m hm => (h m hm).reads depth) hbound true
    (place.after openBrace) rest
  have hclose : ∀ place, closeObject ⟨place, closeBrace :: rest⟩ =
      .ok ((), ⟨place.after closeBrace, rest⟩) := fun _ => rfl
  rw [htext, objectOf, bind_of_ok hskip, bind_of_ok hleft, closing_of_ok hbody (hclose _),
    bytes_object, Place.over_cons, Place.over_append]
  rfl

/-- An object of plain values is read as its members, the last of each name. -/
theorem reads_object {ms : List (String × Value)} (h : ∀ m ∈ ms, Plain m.2) (depth : Nat) :
    Reads (value (depth + 1)) (.object ms) (.object (sortMembers ms)) := by
  have hobject := reads_objectOf h depth
  refine ⟨hobject.lead, fun place rest hrest => ?_⟩
  have hpeek : Json.peekValue ⟨place, (Value.object ms).bytes ++ rest⟩ =
      .ok (openBrace, ⟨place, (Value.object ms).bytes ++ rest⟩) := by
    rw [bytes_object]
    exact peekValue_cons (by decide) place _
  rw [value]
  unfold valueOf
  rw [bind_of_ok hpeek, if_neg (by decide), if_pos rfl]
  exact map_of_ok (hobject.read place hrest)

/-- The text of an object of plain values is parsed as its members, the last of each name. -/
theorem parse_object {ms : List (String × Value)} (h : ∀ m ∈ ms, Plain m.2) :
    parse (Utf8.encode (Value.object ms).text.toList) = .ok (.object (sortMembers ms)) := by
  rw [Value.text, String.toList_ofList]
  exact (reads_object h 126).run

/-! ## Control characters -/

/-- No control character below U+0020 is among the characters. -/
def Unbroken (s : List Char) : Prop := ∀ c ∈ s, ¬ c.val < 0x20

theorem Unbroken.append {s t : List Char} (hs : Unbroken s) (ht : Unbroken t) :
    Unbroken (s ++ t) := by
  intro c hc
  rcases List.mem_append.mp hc with hc | hc
  · exact hs c hc
  · exact ht c hc

instance (s : List Char) : Decidable (Unbroken s) :=
  List.decidableBAll (fun c : Char => ¬ c.val < 0x20) s

/-- The digits that a control character is escaped with are none. -/
theorem unbroken_control : ∀ n : Fin 32,
    Unbroken ['\\', 'u', '0', '0', hexDigit (n / 16), hexDigit (n % 16)] := by
  decide

theorem unbroken_escapeChar (c : Char) : Unbroken (escapeChar c) := by
  unfold escapeChar
  split_ifs with hquote hslash hfeed hreturn htab hback hform hcontrol
  · decide
  · decide
  · decide
  · decide
  · decide
  · decide
  · decide
  · have hlt : c.toNat < 0x20 := by simpa [UInt32.lt_iff_toNat_lt] using hcontrol
    exact unbroken_control ⟨c.toNat, hlt⟩
  · intro c' hc'
    obtain rfl := List.mem_singleton.mp hc'
    exact hcontrol

theorem unbroken_writeString (s : String) : Unbroken (writeString s) := by
  have hescaped : Unbroken (s.toList.flatMap escapeChar) := by
    intro c hc
    obtain ⟨c', -, hc'⟩ := List.mem_flatMap.mp hc
    exact unbroken_escapeChar c' c hc'
  have hquote : Unbroken ['"'] := by decide
  exact (hquote.append hescaped).append hquote

theorem unbroken_toDigits (n : Nat) : Unbroken (Nat.toDigits 10 n) := by
  intro c hc hlt
  have hdigit := (isDigit_iff c).mp (isDigit_of_mem_toDigits hc)
  have hlow : c.toNat < 0x20 := by simpa [UInt32.lt_iff_toNat_lt] using hlt
  omega

theorem Plain.unbroken {v : Value} (h : Plain v) : Unbroken v.write := by
  cases h with
  | string s => exact unbroken_writeString s
  | @natural n _ =>
    have hwrite : (Value.natural n).write = Nat.toDigits 10 n := by
      show (toString (n : Int)).toList = _
      simp [toString, Int.repr, Nat.repr]
    rw [hwrite]
    exact unbroken_toDigits n

theorem unbroken_member {k : String} {v : Value} (h : Plain v) :
    Unbroken (writeString k ++ ':' :: v.write) := by
  have hcolon : Unbroken [':'] := by decide
  exact (unbroken_writeString k).append (hcolon.append h.unbroken)

theorem unbroken_writeMembers {ms : List (String × Value)} (h : ∀ m ∈ ms, Plain m.2) :
    Unbroken (writeMembers ms) := by
  induction ms with
  | nil => decide
  | cons m ms ih =>
    obtain ⟨k, v⟩ := m
    have hcomma : Unbroken [','] := by decide
    have hmember := unbroken_member (k := k) (h _ List.mem_cons_self)
    have hrest := ih fun m hm => h m (List.mem_cons_of_mem _ hm)
    simpa [writeMembers] using (hcomma.append hmember).append hrest

/-- The text of an object of plain values has no control character, so it is one line. -/
theorem unbroken_object {ms : List (String × Value)} (h : ∀ m ∈ ms, Plain m.2) :
    Unbroken (Value.object ms).text.toList := by
  rw [Value.text, String.toList_ofList]
  have hopen : Unbroken ['\x7b'] := by decide
  have hclose : Unbroken ['\x7d'] := by decide
  cases ms with
  | nil => exact hopen.append hclose
  | cons m ms =>
    obtain ⟨k, v⟩ := m
    have hmember := unbroken_member (k := k) (h _ List.mem_cons_self)
    have hrest := unbroken_writeMembers fun m hm => h m (List.mem_cons_of_mem _ hm)
    simpa [Value.write] using ((hopen.append hmember).append hrest).append hclose

end EdgeRender.Json
