-- SUMMARY: A tree of encoded records answers as the map of the records would.
import Chronicle.Page.Memory
import Chronicle.Page.Records
import Chronicle.Post
import Chronicle.Proofs.Store.Bytes
import Chronicle.Proofs.Store.OrderedMap

/-!
# Stored records and maps of records

The keys of a tree are in the order of the identifiers. A tree in which nothing but records was
stored is therefore the map of the records with keys and values in another form. A scan of it
decodes one entry after another up to the limit, and what it has then is what a filter and a cut
leave of the records.
-/

namespace Chronicle

theorem Uid.compare_toKey (u v : Uid) : compare u.toKey v.toKey = compare u v :=
  Bytes.compare_ofWord u.raw v.raw

namespace RecordStore

variable {V : Type}

/-- The tree that holds the records of a map. -/
def ofMap (codec : RecordCodec V) (m : OrderedMap Uid V) : RecordStore V :=
  ⟨codec, m.recode Uid.toKey codec.encode Uid.compare_toKey⟩

/-- Store records one after another. -/
def insertAll (r : RecordStore V) (records : List (Uid × V)) : RecordStore V :=
  records.foldl (fun r e => r.insert e.1 e.2) r

end RecordStore

/-- Store rows one after another. -/
def OrderedMap.insertAll {V : Type} (m : OrderedMap Uid V) (rows : List (Uid × V)) :
    OrderedMap Uid V :=
  rows.foldl (fun m e => m.insert e.1 e.2) m

namespace RecordStore

variable {V : Type} {codec : RecordCodec V} {m : OrderedMap Uid V} {filter : V → Bool}

/-! ## Writing -/

theorem insert_ofMap (u : Uid) (v : V) :
    (ofMap codec m).insert u v = ofMap codec (m.insert u v) :=
  congrArg (RecordStore.mk codec) (m.insert_recode Uid.toKey codec.encode Uid.compare_toKey u v)

theorem insertAll_ofMap (records : List (Uid × V)) :
    (ofMap codec m).insertAll records = ofMap codec (m.insertAll records) := by
  induction records generalizing m with
  | nil => rfl
  | cons e rest ih => exact (congrArg (insertAll · rest) (insert_ofMap e.1 e.2)).trans ih

/-- Every row of a map comes from one of the rows stored in it. -/
theorem mem_insertAll {rows : List (Uid × V)} {e : Uid × V}
    (h : e ∈ (m.insertAll rows).entries) : e ∈ m.entries ∨ e ∈ rows := by
  induction rows generalizing m with
  | nil => exact .inl h
  | cons row rest ih =>
    rcases ih (m := m.insert row.1 row.2) h with hmem | hrest
    · rcases OrderedMap.mem_entries_insert.1 hmem with rfl | ⟨-, hmem⟩
      · exact .inr List.mem_cons_self
      · exact .inl hmem
    · exact .inr (List.mem_cons_of_mem _ hrest)

/-! ## Reading -/

/-- The records of the map are read back from their encoded form. -/
def Readable (codec : RecordCodec V) (rows : List (Uid × V)) : Prop :=
  ∀ e ∈ rows, codec.decode (codec.encode e.2) = .ok e.2

/-- A scan of encoded records gives those that pass the filter, as far as the limit allows. -/
theorem collect_encoded {rows : List (Uid × V)} (h : Readable codec rows) (filter : V → Bool)
    (limit : Nat) :
    collect codec filter limit (rows.map fun e => (e.1.toKey, codec.encode e.2))
      = .ok ((rows.filter fun e => filter e.2).take limit) := by
  induction rows generalizing limit with
  | nil => cases limit <;> rfl
  | cons e rest ih =>
    obtain ⟨hfirst, hrest⟩ := List.forall_mem_cons.1 h
    cases limit with
    | zero => rfl
    | succ limit =>
      rw [List.map_cons, collect]
      cases hpass : filter e.2 with
      | false =>
        rw [List.filter_cons, if_neg (by simp [hpass])]
        simp only [hfirst, hpass, Bool.false_eq_true, if_false]
        exact ih hrest (limit + 1)
      | true =>
        rw [List.filter_cons, if_pos hpass, List.take_succ_cons]
        simp only [hfirst, hpass, if_true, Uid.ofKey?_toKey, ih hrest limit]
        rfl

theorem scan_ofMap (h : Readable codec m.entries) (filter : V → Bool) (s : Scan Uid) :
    (ofMap codec m).scan filter s = .ok (m.scan filter s) := by
  have hbeyond : Readable codec (m.beyond s.startAfter s.direction) := fun e he =>
    h e (OrderedMap.mem_of_mem_beyond he)
  rw [scan, OrderedMap.scan, ← collect_encoded hbeyond]
  exact congrArg (collect codec filter s.limit)
    (m.beyond_recode Uid.toKey codec.encode Uid.compare_toKey s.startAfter s.direction)

theorem size_ofMap : (ofMap codec m).size = m.size :=
  m.size_recode Uid.toKey codec.encode Uid.compare_toKey

theorem isEmpty_ofMap : (ofMap codec m).isEmpty = m.isEmpty :=
  m.isEmpty_recode Uid.toKey codec.encode Uid.compare_toKey

theorem get?_ofMap (h : Readable codec m.entries) (u : Uid) :
    (ofMap codec m).get? u = .ok (m.get? u) := by
  have hget : (ofMap codec m).tree.get? u.toKey = (m.get? u).map codec.encode :=
    m.get?_recode Uid.toKey codec.encode Uid.compare_toKey u
  rw [RecordStore.get?, hget]
  cases hrow : m.get? u with
  | none => rfl
  | some v =>
    have hread := h (u, v) (OrderedMap.get?_eq_some_iff.1 hrow)
    simp only [Option.map_some]
    rw [show (ofMap codec m).codec = codec from rfl, hread]

/-! ## Pages -/

/-- A source without effects, offered to pages whose items may have some. -/
def offer {F : Type} (effect : Type → Type) [Monad effect]
    (source : F → Scan Uid → ExceptT Fault Id (List (Uid × V))) (filter : F) (s : Scan Uid) :
    ExceptT Fault effect (List (Uid × V)) :=
  ExceptT.mk (pure (source filter s).run)

/-- Records are stored one after another in a tree and in a map, again under the same identifier or
not, and are read back from their encoded form. Then tree and map give the same answers: the record
of each identifier, the number of records, the rows of each scan, and each page that is asked for,
whatever the items are made of and whatever effects this has. -/
theorem records_answer_as_map (codec : RecordCodec V) (records : List (Uid × V))
    (hcodec : ∀ e ∈ records, codec.decode (codec.encode e.2) = .ok e.2) :
    let stored := (RecordStore.mk codec .empty).insertAll records
    let m := (OrderedMap.empty : OrderedMap Uid V).insertAll records
    (∀ u, stored.get? u = .ok (m.get? u)) ∧ stored.size = m.size ∧ stored.isEmpty = m.isEmpty ∧
    (∀ filter s, stored.scan filter s = .ok (m.scan filter s)) ∧
    ∀ (effect : Type → Type) [Monad effect] (T : Type) (q : Page.Query)
      (o : Page.Options (V → Bool) Uid) (make : V → ExceptT Fault effect T),
      Page.find q (offer effect stored.source) o make
        = Page.find q (offer effect m.source) o make := by
  intro stored m
  have hstored : stored = ofMap codec m := insertAll_ofMap (m := .empty) records
  have hreadable : Readable codec m.entries := fun e he =>
    (mem_insertAll he).elim nofun (hcodec e)
  have hscan : ∀ filter s, stored.scan filter s = .ok (m.scan filter s) :=
    hstored ▸ scan_ofMap hreadable
  refine ⟨hstored ▸ get?_ofMap hreadable, hstored ▸ size_ofMap, hstored ▸ isEmpty_ofMap, hscan, ?_⟩
  intro effect _ T q o make
  have hsource : stored.source = m.source := funext fun filter => funext (hscan filter)
  rw [hsource]

/-- Posts as JSON texts, one of them stored in place of another. A page in descending order shows
those that pass the filter. -/
theorem records_answer_as_map_posts :
    let u : Uid := ⟨300000, by decide, by decide⟩
    let v : Uid := ⟨40000000000, by decide, by decide⟩
    let w : Uid := ⟨500000, by decide, by decide⟩
    let posts : List (Uid × Post) :=
      [(v, ⟨2, "late"⟩), (u, ⟨1, "\"first\"\n"⟩), (w, ⟨1, "gone"⟩), (w, ⟨2, "w"⟩)]
    let stored := (RecordStore.mk Post.codec .empty).insertAll posts
    (∀ e ∈ posts, Post.codec.decode (Post.codec.encode e.2) = .ok e.2) ∧
      stored.size = 3 ∧ stored.get? w = .ok (some ⟨2, "w"⟩) ∧
      stored.scan (fun p => p.thread = 2) ⟨some v, .descending, 5⟩ = .ok [(w, ⟨2, "w"⟩)] := by
  intro u v w posts stored
  have hcodec : ∀ e ∈ posts, Post.codec.decode (Post.codec.encode e.2) = .ok e.2 := by
    decide +kernel
  obtain ⟨hget, hsize, -, hscan, -⟩ := records_answer_as_map Post.codec posts hcodec
  refine ⟨hcodec, ?size, ?record, ?rows⟩
  case size => exact hsize.trans (by decide)
  case record => exact (hget w).trans (by decide)
  case rows => exact (hscan _ _).trans (by decide)

end RecordStore

end Chronicle
