import FlowAtlas.Cluster.Export
import FlowAtlas.Proofs.Trace.Reading
import FlowAtlas.Proofs.Trace.Stream
import FlowAtlas.Proofs.Trace.Word

/-!
# Records are read as they were written

`Record.RoundTrips` says of a kind of records what becomes of them when they are written and read,
and what becomes of bytes when they are read and written.  The main statement `roundTrips_all` is
that all five kinds do, and that a cross-module record keeps its signature hash and its mark of a
callback.

* Records that fit their fields (`Fits`) come back as they were, in order and numbered from zero.
* Bytes come back in their `canonical` form.  Exported records fill their words, so that their bytes
  are canonical; a block record has an ordinal byte that says nothing, and an edge record has kind
  and ordinal twice, of which the second pair says nothing.

All of this rests on two facts about a single record, `Record.Lossless`, which are found by taking
the bytes of its words apart.
-/

set_option autoImplicit false

namespace FlowAtlas

open Bytes (toNat)

/-! ## Kinds and their numbers -/

namespace NodeKind

@[simp] theorem ofCode?_code (k : NodeKind) : ofCode? k.code = some k := by cases k <;> rfl

theorem code_of_ofCode? {code : UInt8} {k : NodeKind} (h : ofCode? code = some k) :
    k.code = code := by
  have hcodes : ∀ i : Fin all.length, all[i].code.toNat = i := by decide
  obtain ⟨hlt, hk⟩ := List.getElem?_eq_some_iff.1 h
  rw [← UInt8.toNat_inj, ← hk]
  exact hcodes ⟨code.toNat, hlt⟩

end NodeKind

namespace EdgeKind

@[simp] theorem ofCode?_code (k : EdgeKind) : ofCode? k.code = some k := by cases k <;> rfl

theorem code_of_ofCode? {code : UInt8} {k : EdgeKind} (h : ofCode? code = some k) :
    k.code = code := by
  have hcodes : ∀ i : Fin all.length, all[i].code.toNat = i := by decide
  obtain ⟨hlt, hk⟩ := List.getElem?_eq_some_iff.1 h
  rw [← UInt8.toNat_inj, ← hk]
  exact hcodes ⟨code.toNat, hlt⟩

theorem toNat_code_lt (k : EdgeKind) : k.code.toNat < 16 := by cases k <;> decide

end EdgeKind

/-! ## From one record to a stream of them -/

namespace Record

variable {α : Type} [Record α] {Fits : α → Prop} {canonical : Bytes → Bytes} {bs : Bytes}
  {values : List α} {i : Nat}

/-- A record that fits its fields is read as it was written, and what is read as a record is
written in canonical form. -/
structure Lossless (α : Type) [Record α] (Fits : α → Prop) (canonical : Bytes → Bytes) : Prop where
  length_encode : ∀ v : α, (encode v).length = size α
  decode_encode : ∀ v : α, Fits v → decode (encode v) = .ok v
  encode_of_decode : ∀ bs (v : α), bs.length = size α → decode bs = .ok v →
    Fits v ∧ encode v = canonical bs

/-- What becomes of records that are written and read, and of bytes that are read and written. -/
structure RoundTrips (α : Type) [Record α] (Fits : α → Prop) (canonical : Bytes → Bytes) :
    Prop where
  /-- Every record takes the same number of bytes. -/
  length_encode : ∀ v : α, (encode v).length = size α
  /-- The writer counts the records, and writes the bytes of each. -/
  written : ∀ values : List α, (RecordWriter.writeAll {} values).written = values.length ∧
    (toBytes values).length = values.length * size α
  /-- Reading gives the records in order and then nothing, however the bytes are delivered. -/
  read : ∀ values : List α, (∀ v ∈ values, Fits v) → ∀ source,
    Delivery.contents source = toBytes values → Delivery.failure? source = none →
    ∀ n, (⟨source, 0, false⟩ : RecordReader α).answer? n = values[n]?.map fun v => .ok (n, v)
  /-- What is read as a record fits its fields, and is written in canonical form. -/
  rewritten : ∀ bs (v : α), bs.length = size α → decode bs = .ok v →
    Fits v ∧ encode v = canonical bs
  /-- The same for a whole stream that is read without error. -/
  rewrittenAll : ∀ bs (values : List α), ofBytes α bs = (numbered 0 values).map .ok →
    toBytes values = ((List.range values.length).map (form α bs)).flatMap canonical

omit [Record α] in
theorem getElem?_numbered (first : Nat) (values : List α) (n : Nat) :
    (numbered first values)[n]? = values[n]?.map fun v => (first + n, v) := by
  induction values generalizing first n with
  | nil => rfl
  | cons v values ih =>
    cases n with
    | zero => rfl
    | succ n =>
      rw [numbered, List.getElem?_cons_succ, List.getElem?_cons_succ, ih, Nat.add_right_comm,
        Nat.add_assoc]

theorem written_writeAll (w : RecordWriter) (values : List α) :
    (w.writeAll values).written = w.written + values.length := by
  induction values generalizing w with
  | nil => rfl
  | cons v values ih =>
    show ((w.write v).writeAll values).written = _
    rw [ih, List.length_cons, Nat.add_left_comm, Nat.add_comm]
    rfl

theorem length_toBytes (h : ∀ v : α, (encode v).length = size α) (values : List α) :
    (toBytes values).length = values.length * size α := by
  rw [toBytes_eq]
  induction values with
  | nil => exact (Nat.zero_mul _).symm
  | cons v values ih =>
    rw [List.flatMap_cons, List.length_append, h, ih, List.length_cons, Nat.succ_mul, Nat.add_comm]

/-- The forms of a stream are the canonical forms of what they are read as. -/
theorem Lossless.toBytes_eq_of_forms (h : Lossless α Fits canonical) (hforms : Forms bs values) :
    toBytes values = ((List.range values.length).map (form α bs)).flatMap canonical := by
  induction hforms with
  | nil => rw [toBytes_eq]; rfl
  | @cons head rest v values hsize hdecode hrest ih =>
    have hfirst : form α (head ++ rest) 0 = head := by
      rw [form, Nat.zero_mul, List.drop_zero, List.take_left' hsize]
    have hlater : form α (head ++ rest) ∘ Nat.succ = form α rest := by
      funext i
      have hplace : i.succ * size α = head.length + i * size α := by
        rw [Nat.succ_mul, hsize, Nat.add_comm]
      rw [Function.comp_apply, form, form, hplace, ← List.drop_drop, List.drop_left]
    rw [toBytes_eq] at ih ⊢
    rw [List.flatMap_cons, ih, (h.encode_of_decode head v hsize hdecode).2, List.length_cons,
      List.range_succ_eq_map, List.map_cons, List.map_map, hfirst, hlater, List.flatMap_cons]

theorem Lossless.forms_toBytes (h : Lossless α Fits canonical) (hfits : ∀ v ∈ values, Fits v) :
    Forms (toBytes values) values :=
  Record.forms_toBytes fun v hv => ⟨h.length_encode v, h.decode_encode v (hfits v hv)⟩

/-- A file of records that fit their fields is read as these records. -/
theorem Lossless.ofBytes_toBytes (h : Lossless α Fits canonical) (hfits : ∀ v ∈ values, Fits v) :
    ofBytes α (toBytes values) = (numbered 0 values).map .ok :=
  RecordReader.readAll_of_forms (h.forms_toBytes hfits) 0

/-- **A stream of records comes back when each of them does.** -/
theorem Lossless.roundTrips (h : Lossless α Fits canonical) : RoundTrips α Fits canonical where
  length_encode := h.length_encode
  written values :=
    ⟨(written_writeAll {} values).trans (Nat.zero_add _), length_toBytes h.length_encode values⟩
  read values hfits source hcontents hfailure n := by
    have hforms := h.forms_toBytes hfits
    -- the answers depend on the bytes alone, so these may come in a single piece
    have hwhole := RecordReader.answer?_eq (α := α) [.bytes (toBytes values)] n
    have hpieces := RecordReader.answer?_eq (α := α) source n
    rw [Delivery.contents, Delivery.contents, List.append_nil] at hwhole
    rw [hcontents, hfailure] at hpieces
    refine (hpieces.trans hwhole.symm).trans ?_
    rw [← RecordReader.getElem?_readAll, RecordReader.readAll_of_forms hforms, List.getElem?_map,
      getElem?_numbered, Option.map_map, Nat.zero_add]
    rfl
  rewritten := h.encode_of_decode
  rewrittenAll bs values hread := by
    obtain ⟨values', hforms, hvalues⟩ := RecordReader.forms_of_readAll hread
    have heq := congrArg (List.map Prod.snd) hvalues
    rw [map_snd_numbered, map_snd_numbered] at heq
    rw [heq]
    exact h.toBytes_eq_of_forms hforms

end Record

/-! ## Block records -/

namespace NodeRecord

/-- The address fits its field. -/
def Fits (r : NodeRecord) : Prop := r.tag < TagWord.tagLimit

/-- The form with nothing between address and kind. -/
def canonical (bs : Bytes) : Bytes := bs.set 5 0

variable {low rest : Bytes} {ordinal kind version : UInt8}

theorem decode_form (hlow : low.length = 5) (hash : UInt64) :
    decode (TagWord.form low ordinal kind version ++ Bytes.ofWord hash) =
      match NodeKind.ofCode? kind with
      | some k => .ok ⟨UInt64.ofNat (toNat low), version, k, hash⟩
      | none => .error (.node kind) := by
  have hword :=
    Bytes.word_append_succ (TagWord.length_form hlow ordinal kind version) (Bytes.ofWord hash) 0
  have hhash := Bytes.word_ofWord_append hash []
  rw [List.append_nil] at hhash
  rewrite [decode, TagWord.decode_word hlow, hword, hhash]
  rfl

theorem encode_eq (r : NodeRecord) : encode r =
    TagWord.form (Bytes.ofNat 5 (TagWord.clip r.tag).toNat) 0 r.kind.code r.version ++
      Bytes.ofWord r.hash := by
  rw [encode, TagWord.ofWord_encode, TagWord.new]

/-- What is read of a written record has its address cut to its field. -/
theorem decode_encode (r : NodeRecord) :
    decode (encode r) = .ok (.new r.tag r.version r.kind r.hash) := by
  rw [encode_eq, decode_form (Bytes.length_ofNat _ _), NodeKind.ofCode?_code,
    TagWord.ofNat_toNat_clip]
  rfl

theorem lossless : Record.Lossless NodeRecord Fits canonical where
  length_encode r := by
    show (encode r).length = 16
    rw [encode_eq, List.length_append, TagWord.length_form (Bytes.length_ofNat _ _) _ _ _,
      Bytes.length_ofWord]
  decode_encode r hr := by
    have hclip := TagWord.clip_eq_of_lt hr
    refine (decode_encode r).trans ?_
    rw [new, hclip]
  encode_of_decode bs r hsize hr := by
    have hsize : bs.length = 16 := hsize
    obtain ⟨low, ordinal, kind, version, rest, hlow, rfl⟩ := TagWord.exists_form bs (by omega)
    rw [List.length_append, TagWord.length_form hlow] at hsize
    have hrest : Bytes.ofWord (rest.word 0) = rest := Bytes.ofWord_word (by omega)
    have hr : decode (TagWord.form low ordinal kind version ++ rest) = .ok r := hr
    rw [← hrest, decode_form hlow] at hr
    cases hkind : NodeKind.ofCode? kind with
    | none =>
      rw [hkind] at hr
      cases hr
    | some k =>
      rw [hkind] at hr
      cases hr
      have hclip := TagWord.clip_address hlow
      refine ⟨TagWord.address_lt hlow, (encode_eq _).trans ?_⟩
      dsimp only
      rw [hclip, TagWord.ofNat_address hlow, NodeKind.code_of_ofCode? hkind, hrest, canonical,
        TagWord.set_ordinal hlow]

end NodeRecord

/-! ## Edge records -/

namespace EdgeRecord

/-- The addresses of both ends fit their fields. -/
def Fits (r : EdgeRecord) : Prop :=
  r.source.tag < TagWord.tagLimit ∧ r.target.tag < TagWord.tagLimit

/-- The form with kind and ordinal of the source at the target as well.  A record to be passed over
has the kind number zero instead of an unknown one. -/
def canonical (bs : Bytes) : Bytes :=
  let ordinal := bs.getD 5 0
  let kind := bs.getD 6 0
  let known := if ordinal = skipOrdinal ∧ EdgeKind.ofCode? kind = none then 0 else kind
  ((bs.set 6 known).set 13 ordinal).set 14 known

variable {low low' rest : Bytes} {o o' k k' v v' : UInt8}

theorem decode_form (hlow : low.length = 5) (hlow' : low'.length = 5) :
    decode (TagWord.form low o k v ++ (TagWord.form low' o' k' v' ++ rest)) =
      match EdgeKind.ofCode? k with
      | some kind => .ok ⟨⟨UInt64.ofNat (toNat low), v⟩, ⟨UInt64.ofNat (toNat low'), v'⟩, kind, o⟩
      | none =>
        if o = skipOrdinal then
          .ok ⟨⟨UInt64.ofNat (toNat low), v⟩, ⟨UInt64.ofNat (toNat low'), v'⟩, .indirect, o⟩
        else .error (.edge k) := by
  have hword := Bytes.word_append_succ (TagWord.length_form hlow o k v)
    (TagWord.form low' o' k' v' ++ rest) 0
  rewrite [decode, TagWord.decode_word hlow, hword, TagWord.decode_word hlow']
  rfl

theorem encode_eq (r : EdgeRecord) : encode r =
    TagWord.form (Bytes.ofNat 5 (TagWord.clip r.source.tag).toNat) r.ordinal r.kind.code
        r.source.version ++
      TagWord.form (Bytes.ofNat 5 (TagWord.clip r.target.tag).toNat) r.ordinal r.kind.code
        r.target.version := by
  rw [encode]
  dsimp only
  rw [TagWord.ofWord_encode, TagWord.ofWord_encode, TagWord.new, TagWord.new]

theorem length_encode (r : EdgeRecord) : (encode r).length = 16 := by
  rw [encode_eq, List.length_append, TagWord.length_form (Bytes.length_ofNat _ _) _ _ _,
    TagWord.length_form (Bytes.length_ofNat _ _) _ _ _]

/-- What is read of a written record has its addresses cut to their fields. -/
theorem decode_encode_append (r : EdgeRecord) (rest : Bytes) : decode (encode r ++ rest) =
    .ok ⟨.new r.source.tag r.source.version, .new r.target.tag r.target.version, r.kind,
      r.ordinal⟩ := by
  rw [encode_eq, List.append_assoc, decode_form (Bytes.length_ofNat _ _) (Bytes.length_ofNat _ _),
    EdgeKind.ofCode?_code, TagWord.ofNat_toNat_clip, TagWord.ofNat_toNat_clip]
  rfl

theorem decode_encode_append_of_fits {r : EdgeRecord} (hr : r.Fits) (rest : Bytes) :
    decode (encode r ++ rest) = .ok r := by
  have hsource := TagWord.clip_eq_of_lt hr.1
  have htarget := TagWord.clip_eq_of_lt hr.2
  rw [decode_encode_append, Endpoint.new, Endpoint.new, hsource, htarget]

theorem canonical_form (hlow : low.length = 5) (hlow' : low'.length = 5) :
    canonical (TagWord.form low o k v ++ (TagWord.form low' o' k' v' ++ rest)) =
      let known := if o = skipOrdinal ∧ EdgeKind.ofCode? k = none then 0 else k
      TagWord.form low o known v ++ (TagWord.form low' o known v' ++ rest) := by
  have hordinal :
      (TagWord.form low o k v ++ (TagWord.form low' o' k' v' ++ rest)).getD 5 0 = o := by
    rw [TagWord.form, List.append_assoc, List.getD_eq_getElem?_getD,
      List.getElem?_append_right (by omega), hlow]
    rfl
  have hkind : (TagWord.form low o k v ++ (TagWord.form low' o' k' v' ++ rest)).getD 6 0 = k := by
    rw [TagWord.form, List.append_assoc, List.getD_eq_getElem?_getD,
      List.getElem?_append_right (by omega), hlow]
    rfl
  have hset : ∀ (known x : UInt8) (i : Nat) (bs : Bytes),
      (TagWord.form low o known v ++ bs).set (8 + i) x =
        TagWord.form low o known v ++ bs.set i x := by
    intro known x i bs
    have hlength := TagWord.length_form hlow o known v
    rw [List.set_append_right _ _ (by omega), hlength, Nat.add_sub_cancel_left]
  rw [canonical, hordinal, hkind]
  dsimp only
  rw [TagWord.set_kind hlow, hset _ _ 5, TagWord.set_ordinal hlow', hset _ _ 6,
    TagWord.set_kind hlow']

/-- What is read as an edge fits its fields, and its two words are written in canonical form,
whatever follows them. -/
theorem encode_of_decode_append {bs : Bytes} {r : EdgeRecord} (hsize : bs.length = 16)
    (rest : Bytes) (hr : decode (bs ++ rest) = .ok r) :
    r.Fits ∧ encode r ++ rest = canonical (bs ++ rest) := by
  obtain ⟨low, o, k, v, bs', hlow, rfl⟩ := TagWord.exists_form bs (by omega)
  rw [List.length_append, TagWord.length_form hlow] at hsize
  obtain ⟨low', o', k', v', bs, hlow', rfl⟩ := TagWord.exists_form bs' (by omega)
  rw [List.length_append, TagWord.length_form hlow'] at hsize
  obtain rfl : bs = [] := List.length_eq_zero_iff.1 (by omega)
  have haddress := TagWord.address_lt hlow
  have haddress' := TagWord.address_lt hlow'
  have hclip := TagWord.clip_eq_of_lt haddress
  have hclip' := TagWord.clip_eq_of_lt haddress'
  have hlow₅ := TagWord.ofNat_address hlow
  have hlow₅' := TagWord.ofNat_address hlow'
  rw [List.append_nil, List.append_assoc] at hr ⊢
  rw [decode_form hlow hlow'] at hr
  rw [canonical_form hlow hlow']
  cases hkind : EdgeKind.ofCode? k with
  | some kind =>
    rw [hkind] at hr
    cases hr
    refine ⟨⟨haddress, haddress'⟩, ?_⟩
    rw [encode_eq, if_neg (fun h => nomatch h.2), EdgeKind.code_of_ofCode? hkind]
    dsimp only
    rw [hclip, hclip', hlow₅, hlow₅', List.append_assoc]
  | none =>
    -- only a record that is to be passed over may be of an unknown kind
    rw [hkind] at hr
    dsimp only at hr
    split at hr
    · rename_i hskip
      cases hr
      refine ⟨⟨haddress, haddress'⟩, ?_⟩
      rw [encode_eq, if_pos ⟨hskip, rfl⟩]
      dsimp only
      rw [hclip, hclip', hlow₅, hlow₅', List.append_assoc]
      rfl
    · cases hr

theorem lossless : Record.Lossless EdgeRecord Fits canonical where
  length_encode := length_encode
  decode_encode r hr := by
    have hdecode := decode_encode_append_of_fits hr []
    rwa [List.append_nil] at hdecode
  encode_of_decode bs r hsize hr := by
    have hencode := encode_of_decode_append hsize []
      ((List.append_nil bs).symm ▸ hr)
    rwa [List.append_nil, List.append_nil] at hencode

end EdgeRecord

/-! ## Cross-module records -/

namespace CrossRecord

/-- The addresses of both ends fit their fields. -/
def Fits (r : CrossRecord) : Prop := r.edge.Fits

theorem decode_append {bs : Bytes} (hbs : bs.length = 16) (signature : Int64) :
    decode (bs ++ Bytes.ofWord signature.toUInt64) =
      (EdgeRecord.decode (bs ++ Bytes.ofWord signature.toUInt64)).map (⟨·, signature⟩) := by
  have hword : (bs ++ Bytes.ofWord signature.toUInt64).word 2 = signature.toUInt64 := by
    have hfirst : (bs.take 8).length = 8 := by
      rw [List.length_take]
      omega
    have hsecond : (bs.drop 8).length = 8 := by
      rw [List.length_drop]
      omega
    have hhead :=
      Bytes.word_append_succ hfirst (bs.drop 8 ++ Bytes.ofWord signature.toUInt64) 1
    have hnext := Bytes.word_append_succ hsecond (Bytes.ofWord signature.toUInt64) 0
    have hlast := Bytes.word_ofWord_append signature.toUInt64 []
    rw [List.append_nil] at hlast
    rw [← List.append_assoc, List.take_append_drop] at hhead
    exact hhead.trans (hnext.trans hlast)
  have hsignature : signature.toUInt64.toInt64 = signature := Int64.toInt64_toUInt64 signature
  rw [decode, hword, hsignature]
  cases EdgeRecord.decode (bs ++ Bytes.ofWord signature.toUInt64) with
  | ok edge => rfl
  | error kind => rfl

/-- What is read of a written record has its addresses cut to their fields, and its signature. -/
theorem decode_encode (r : CrossRecord) : decode (encode r) =
    .ok ⟨⟨.new r.edge.source.tag r.edge.source.version,
      .new r.edge.target.tag r.edge.target.version, r.edge.kind, r.edge.ordinal⟩, r.signature⟩ := by
  rw [encode, decode_append (EdgeRecord.length_encode _), EdgeRecord.decode_encode_append]
  rfl

theorem lossless : Record.Lossless CrossRecord Fits EdgeRecord.canonical where
  length_encode r := by
    show (encode r).length = 24
    rw [encode, List.length_append, EdgeRecord.length_encode, Bytes.length_ofWord]
  decode_encode r hr := by
    show decode (encode r) = .ok r
    rw [encode, decode_append (EdgeRecord.length_encode _),
      EdgeRecord.decode_encode_append_of_fits hr]
    rfl
  encode_of_decode bs r hsize hr := by
    have hsize : bs.length = 24 := hsize
    have hr : decode bs = .ok r := hr
    have hhead : (bs.take 16).length = 16 := by rw [List.length_take]; omega
    have htail : ∃ signature : Int64, bs.drop 16 = Bytes.ofWord signature.toUInt64 := by
      have htail : (bs.drop 16).length = 8 := by
        rw [List.length_drop]
        omega
      refine ⟨(Bytes.word (bs.drop 16) 0).toInt64, ?_⟩
      rw [UInt64.toUInt64_toInt64, Bytes.ofWord_word htail]
    obtain ⟨signature, htail⟩ := htail
    rw [← List.take_append_drop 16 bs, htail] at hr ⊢
    rw [decode_append hhead] at hr
    cases hedge : EdgeRecord.decode (bs.take 16 ++ Bytes.ofWord signature.toUInt64) with
    | error kind =>
      rw [hedge] at hr
      cases hr
    | ok edge =>
      rw [hedge] at hr
      cases hr
      exact EdgeRecord.encode_of_decode_append hhead _ hedge

/-- The sign of a signature tells whether it is a callback's, and its magnitude is the hash. -/
theorem signature_new (edge : EdgeRecord) (hash : UInt64) (isCallback : Bool) :
    (new edge hash isCallback).signatureHash.toNat = hash.toNat % 2 ^ 63 ∧
      (new edge hash isCallback).isCallback = (isCallback && decide (hash.toNat % 2 ^ 63 ≠ 0)) := by
  obtain ⟨m, hm⟩ : ∃ m : UInt64, m = hash % UInt64.pow 2 63 := ⟨_, rfl⟩
  have hmagnitude : m.toNat = hash.toNat % 2 ^ 63 := by
    have hpow : UInt64.pow 2 63 = 0x8000000000000000 := by decide +kernel
    rw [hm, hpow, UInt64.toNat_mod]
    rfl
  have hlt : m.toNat < 2 ^ 63 := by
    rw [hmagnitude]
    exact Nat.mod_lt _ (Nat.two_pow_pos 63)
  have htwice : 2 * m.toBitVec.toNat < 2 ^ 64 := by
    rw [UInt64.toNat_toBitVec]
    omega
  have hint : m.toInt64.toInt = m.toNat := BitVec.toInt_eq_toNat_of_lt htwice
  have hneg : (-m.toInt64).toInt = -(m.toNat : Int) := by
    rw [Int64.toInt_neg, hint]
    exact Int.bmod_eq_of_le (by omega) (by omega)
  rw [← hmagnitude, new, ← hm]
  cases isCallback with
  | false =>
    have hsign : ¬m.toInt64 < 0 := by
      rw [Int64.lt_iff_toInt_lt, hint]
      exact Int.not_lt.2 (Int.natCast_nonneg _)
    simp [signatureHash, CrossRecord.isCallback, hsign]
  | true =>
    have hsign : -m.toInt64 < 0 ↔ m.toNat ≠ 0 := by
      rw [Int64.lt_iff_toInt_lt, hneg]
      show -(m.toNat : Int) < 0 ↔ _
      omega
    simp only [signatureHash, CrossRecord.isCallback, hsign, if_true, Bool.true_and,
      Int64.toUInt64_neg, UInt64.toUInt64_toInt64, and_true]
    by_cases hzero : m.toNat = 0
    · have hzero' : m = 0 := UInt64.toNat_inj.1 hzero
      rw [hzero']
      rfl
    · rw [if_pos (decide_eq_true hzero), UInt64.sub_neg, UInt64.zero_add]

end CrossRecord

/-! ## Exported records -/

namespace ExportedNode

variable {bs : Bytes}

theorem decode_append (hbs : bs.length = 8) (hash : UInt64) :
    decode (bs ++ Bytes.ofWord hash) =
      match NodeKind.ofCode? (UInt8.ofNat (toNat bs / 2 ^ 56)) with
      | some kind =>
        .ok ⟨UInt16.ofNat (toNat bs), UInt32.ofNat (toNat bs / 2 ^ 16),
          UInt8.ofNat (toNat bs / 2 ^ 48), kind, hash⟩
      | none => .error (.node (UInt8.ofNat (toNat bs / 2 ^ 56))) := by
  have hword := Bytes.word_append_succ hbs (Bytes.ofWord hash) 0
  have hhash := Bytes.word_ofWord_append hash []
  rw [List.append_nil] at hhash
  rw [decode, Bytes.toNat_word_of_length_eq hbs, hword, hhash]
  rfl

/-- The first word of a node. -/
def head (n : ExportedNode) : Bytes :=
  Bytes.ofNat 2 n.module.toNat ++ Bytes.ofNat 4 n.tag.toNat ++ [n.version, n.kind.code]

theorem length_head (n : ExportedNode) : n.head.length = 8 := by
  simp only [head, List.length_append, Bytes.length_ofNat, List.length_cons, List.length_nil]

theorem toNat_head (n : ExportedNode) : toNat n.head =
    n.module.toNat + 2 ^ 16 * n.tag.toNat + 2 ^ 48 * n.version.toNat +
      2 ^ 56 * n.kind.code.toNat := by
  have hmodule : toNat (Bytes.ofNat 2 n.module.toNat) = n.module.toNat := by
    rw [Bytes.toNat_ofNat]
    exact Nat.mod_eq_of_lt n.module.toNat_lt
  have htag : toNat (Bytes.ofNat 4 n.tag.toNat) = n.tag.toNat := by
    rw [Bytes.toNat_ofNat]
    exact Nat.mod_eq_of_lt n.tag.toNat_lt
  rw [head, Bytes.toNat_append, Bytes.toNat_append, hmodule, htag, List.length_append,
    Bytes.length_ofNat, Bytes.length_ofNat]
  simp only [Bytes.toNat]
  omega

theorem lossless : Record.Lossless ExportedNode (fun _ => True) id where
  length_encode n := by
    show (n.head ++ Bytes.ofWord n.hash).length = 16
    rw [List.length_append, length_head, Bytes.length_ofWord]
  decode_encode n _ := by
    have hmodule := n.module.toNat_lt
    have htag := n.tag.toNat_lt
    have hversion := n.version.toNat_lt
    have hkind := n.kind.code.toNat_lt
    have hcode : UInt8.ofNat (toNat n.head / 2 ^ 56) = n.kind.code := by
      rw [← UInt8.toNat_inj, UInt8.toNat_ofNat', toNat_head]
      omega
    have hmodule' : UInt16.ofNat (toNat n.head) = n.module := by
      rw [← UInt16.toNat_inj, UInt16.toNat_ofNat', toNat_head]
      omega
    have htag' : UInt32.ofNat (toNat n.head / 2 ^ 16) = n.tag := by
      rw [← UInt32.toNat_inj, UInt32.toNat_ofNat', toNat_head]
      omega
    have hversion' : UInt8.ofNat (toNat n.head / 2 ^ 48) = n.version := by
      rw [← UInt8.toNat_inj, UInt8.toNat_ofNat', toNat_head]
      omega
    refine (decode_append (length_head n) n.hash).trans ?_
    rw [hcode, NodeKind.ofCode?_code, hmodule', htag', hversion']
  encode_of_decode bs n hsize hn := by
    have hsize : bs.length = 16 := hsize
    have hhead : (bs.take 8).length = 8 := by rw [List.length_take]; omega
    have hsecond : (bs.drop 8).length = 8 := by
      rw [List.length_drop]
      omega
    have htail := Bytes.ofWord_word hsecond
    have hn : decode bs = .ok n := hn
    rw [← List.take_append_drop 8 bs, ← htail, decode_append hhead] at hn
    cases hkind : NodeKind.ofCode? (UInt8.ofNat (toNat (bs.take 8) / 2 ^ 56)) with
    | none =>
      rw [hkind] at hn
      cases hn
    | some kind =>
      rw [hkind] at hn
      dsimp only at hn
      cases hn
      refine ⟨trivial, ?_⟩
      have hlt := Bytes.toNat_lt (bs.take 8)
      rw [hhead] at hlt
      show head _ ++ Bytes.ofWord _ = bs
      rw [htail]
      conv_rhs => rw [← List.take_append_drop 8 bs]
      refine congrArg (· ++ bs.drop 8) (Bytes.eq_of_toNat_eq ((length_head _).trans hhead.symm) ?_)
      rw [toNat_head, NodeKind.code_of_ofCode? hkind]
      simp only [UInt16.toNat_ofNat', UInt32.toNat_ofNat', UInt8.toNat_ofNat']
      omega

end ExportedNode

namespace ExportedEdge

/-- Both places fit their fields. -/
def Fits (e : ExportedEdge) : Prop := e.source.toNat < nodeLimit ∧ e.target.toNat < nodeLimit

theorem decode_eq {bs : Bytes} (hbs : bs.length = 8) :
    decode bs =
      match EdgeKind.ofCode? (UInt8.ofNat (toNat bs / 2 ^ 52 % 16)) with
      | some kind =>
        .ok ⟨UInt32.ofNat (toNat bs % 2 ^ 26), UInt32.ofNat (toNat bs / 2 ^ 26 % 2 ^ 26), kind,
          UInt8.ofNat (toNat bs / 2 ^ 56)⟩
      | none => .error (.edge (UInt8.ofNat (toNat bs / 2 ^ 52 % 16))) := by
  have hword := Bytes.toNat_word_of_length_eq hbs []
  rw [List.append_nil] at hword
  rw [decode, hword]
  rfl

/-- The word of an edge. -/
def packed (e : ExportedEdge) : Nat :=
  e.source.toNat % 2 ^ 26 + 2 ^ 26 * (e.target.toNat % 2 ^ 26) + 2 ^ 52 * e.kind.code.toNat +
    2 ^ 56 * e.ordinal.toNat

theorem toNat_encode (e : ExportedEdge) : toNat (encode e) = e.packed := by
  have hkind := e.kind.toNat_code_lt
  have hordinal := e.ordinal.toNat_lt
  have hlt : e.packed < 256 ^ 8 := by
    rw [packed]
    omega
  have hencode : encode e = Bytes.ofNat 8 e.packed := rfl
  rw [hencode, Bytes.toNat_ofNat, Nat.mod_eq_of_lt hlt]

theorem length_encode (e : ExportedEdge) : (encode e).length = 8 := Bytes.length_ofNat 8 _

theorem lossless : Record.Lossless ExportedEdge Fits id where
  length_encode := length_encode
  decode_encode e he := by
    have hsource : e.source.toNat < 2 ^ 26 := he.1
    have htarget : e.target.toNat < 2 ^ 26 := he.2
    have hkind := e.kind.toNat_code_lt
    have hordinal := e.ordinal.toNat_lt
    have hcode : UInt8.ofNat (e.packed / 2 ^ 52 % 16) = e.kind.code := by
      rw [← UInt8.toNat_inj, UInt8.toNat_ofNat', packed]
      omega
    have hsource' : UInt32.ofNat (e.packed % 2 ^ 26) = e.source := by
      rw [← UInt32.toNat_inj, UInt32.toNat_ofNat', packed]
      omega
    have htarget' : UInt32.ofNat (e.packed / 2 ^ 26 % 2 ^ 26) = e.target := by
      rw [← UInt32.toNat_inj, UInt32.toNat_ofNat', packed]
      omega
    have hordinal' : UInt8.ofNat (e.packed / 2 ^ 56) = e.ordinal := by
      rw [← UInt8.toNat_inj, UInt8.toNat_ofNat', packed]
      omega
    refine (decode_eq (length_encode e)).trans ?_
    rw [toNat_encode, hcode, EdgeKind.ofCode?_code, hsource', htarget', hordinal']
  encode_of_decode bs e hsize he := by
    have hsize : bs.length = 8 := hsize
    have he : decode bs = .ok e := he
    have hlt := Bytes.toNat_lt bs
    rw [hsize] at hlt
    rw [decode_eq hsize] at he
    cases hkind : EdgeKind.ofCode? (UInt8.ofNat (toNat bs / 2 ^ 52 % 16)) with
    | none =>
      rw [hkind] at he
      cases he
    | some kind =>
      rw [hkind] at he
      dsimp only at he
      cases he
      have hsource : (UInt32.ofNat (toNat bs % 2 ^ 26)).toNat = toNat bs % 2 ^ 26 := by
        rw [UInt32.toNat_ofNat']
        omega
      have htarget : (UInt32.ofNat (toNat bs / 2 ^ 26 % 2 ^ 26)).toNat =
          toNat bs / 2 ^ 26 % 2 ^ 26 := by
        rw [UInt32.toNat_ofNat']
        omega
      refine ⟨⟨?_, ?_⟩, Bytes.eq_of_toNat_eq ((length_encode _).trans hsize.symm) ?_⟩
      · rw [hsource]
        exact Nat.mod_lt _ (Nat.two_pow_pos 26)
      · rw [htarget]
        exact Nat.mod_lt _ (Nat.two_pow_pos 26)
      · show toNat (encode _) = toNat bs
        rw [toNat_encode, packed, EdgeKind.code_of_ofCode? hkind, hsource, htarget,
          UInt8.toNat_ofNat', UInt8.toNat_ofNat']
        omega

end ExportedEdge

/-! ## All kinds of records -/

/-- **Records of every kind round-trip**, those with addresses if these fit 40 bits and exported
edges if their places fit 26 bits; and exported records have no other bytes than those that they are
written as.  A cross-module record is read with the signature hash, of which it has room for 63
bits, and with the mark of a callback, unless there is no hash to carry it. -/
theorem roundTrips_all :
    Record.RoundTrips NodeRecord NodeRecord.Fits NodeRecord.canonical ∧
    Record.RoundTrips EdgeRecord EdgeRecord.Fits EdgeRecord.canonical ∧
    Record.RoundTrips CrossRecord CrossRecord.Fits EdgeRecord.canonical ∧
    Record.RoundTrips ExportedNode (fun _ => True) id ∧
    Record.RoundTrips ExportedEdge ExportedEdge.Fits id ∧
    ∀ (edge : EdgeRecord) (hash : UInt64) (isCallback : Bool), ∃ r : CrossRecord,
      Record.decode (Record.encode (CrossRecord.new edge hash isCallback)) = .ok r ∧
      r.signatureHash.toNat = hash.toNat % 2 ^ 63 ∧
      r.isCallback = (isCallback && decide (hash.toNat % 2 ^ 63 ≠ 0)) := by
  refine ⟨NodeRecord.lossless.roundTrips, EdgeRecord.lossless.roundTrips,
    CrossRecord.lossless.roundTrips, ExportedNode.lossless.roundTrips,
    ExportedEdge.lossless.roundTrips, fun edge hash isCallback => ?_⟩
  have hsignature := CrossRecord.signature_new edge hash isCallback
  exact ⟨_, CrossRecord.decode_encode (.new edge hash isCallback), hsignature⟩

end FlowAtlas
