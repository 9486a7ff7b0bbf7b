/-
# Receipts rows and their blobs

Any number of uploads and deletions run interleaved, and each of their steps may
fail.  Every committed receipts row names a blob of its size, and no two rows name
the same blob.

The argument follows a storage key through its life.  It is unused until the call
that builds it draws its object id, then owned by that call, live once the row is
committed, and dead once the row is deleted.  Only the owner of a key or the call
that has deleted its row removes a blob, so a live key is never touched.
-/
import SpendLens.ReceiptService
import SpendLens.Pagination
import SpendLens.Steps

namespace SpendLens

/-! ## Object ids of storage keys -/

/-- The object id in a storage key: the 36 characters before its last dot. -/
def objectOf (key : String) : Option UUID :=
  parseUUID Unicode.ascii (String.ofList
    (((key.toList.reverse.dropWhile (fun c => c ≠ '.')).drop 1).take 36).reverse)

theorem length_uuidChars (id : UUID) : (uuidChars id).length = 36 := by
  have hlen : ∀ n m, (hexChars n m).length = n := by
    intro n
    induction n with
    | zero => intro m; rfl
    | succ n ih => intro m; rw [hexChars, List.length_cons, ih]
  simp [uuidChars, hlen]

/-- The object id of a key that has been built from one. -/
theorem objectOf_append (pre ext : String) (id : UUID) (hext : ∀ c ∈ ext.toList, c ≠ '.') :
    objectOf (pre ++ uuidStr id ++ "." ++ ext) = some id := by
  have hrev : (pre ++ uuidStr id ++ "." ++ ext).toList.reverse =
      ext.toList.reverse ++ '.' :: ((uuidChars id).reverse ++ pre.toList.reverse) := by
    simp [uuidStr]
  have hdrop : (ext.toList.reverse ++ '.' :: ((uuidChars id).reverse ++ pre.toList.reverse)).dropWhile
      (fun c => decide (c ≠ '.')) = '.' :: ((uuidChars id).reverse ++ pre.toList.reverse) := by
    rw [List.dropWhile_append_of_pos]
    · rfl
    · intro c hc
      rw [decide_eq_true_eq]
      exact hext c (List.mem_reverse.1 hc)
  have htake : ((uuidChars id).reverse ++ pre.toList.reverse).take 36 = (uuidChars id).reverse := by
    rw [List.take_append_of_le_length (by rw [List.length_reverse, length_uuidChars])]
    apply List.take_of_length_le
    rw [List.length_reverse, length_uuidChars]
  rw [objectOf, hrev, hdrop, List.drop_succ_cons, List.drop_zero, htake, List.reverse_reverse]
  exact parseUUID_uuidStr Unicode.ascii id

/-- No file extension has a dot. -/
theorem extensionFor_no_dot {U : Unicode} {mime extension : String}
    (h : extensionFor U mime = some extension) : ∀ c ∈ extension.toList, c ≠ '.' := by
  have hall : ∀ p ∈ mimeToExt, p.2.toList.all (fun c => c ≠ '.') = true :=
    forall_mem_of_all (by decide)
  obtain ⟨l₁, l₂, heq, -⟩ := List.lookup_eq_some_iff.1 h
  have hmem := hall (strip (U.lower mime), extension) (by rw [heq]; simp)
  intro c hc
  simpa using List.all_eq_true.1 hmem c hc

/-! ## The life of a key -/

/-- Where a storage key is in its life. -/
inductive KeyStatus (ι : Type) where
  | unused
  | owned (i : ι)
  | live (id : UUID)
  | dead

/-- What a call holds on to. -/
inductive Hold where
  | idle
  -- an upload: it has an object id, its blob is stored, its row is staged
  | object (id : UUID)
  | stored (key : String) (size : ℕ)
  | staged (key : String) (size : ℕ)
  -- a deletion: it has loaded the row, it is deleting the row, the row is gone
  | loaded (id : UUID) (key : String)
  | deleting (id : UUID) (key : String)
  | gone (key : String)

namespace Hold

/-- The operations a call may ask for. -/
def may : Hold → Op → Prop
  | object id, .putObject key _ _ => objectOf key = some id
  | stored key size, .sql (.insertReceipt r) => r.storageKey = key ∧ r.fileSizeBytes = size
  | stored key _, .deleteObject k => k = key
  | gone key, .deleteObject k => k = key
  | loaded id _, .sql (.deleteReceipt k) => k = id
  | staged _ _, .commit => True
  | deleting _ _, .commit => True
  | staged _ _, _ => False
  | deleting _ _, _ => False
  | _, .putObject _ _ _ => False
  | _, .deleteObject _ => False
  | _, .sql (.insertReceipt _) => False
  | _, .sql (.updateReceipt _ _) => False
  | _, .sql (.deleteReceipt _) => False
  | _, .commit => False
  | _, .rollback => False
  | _, _ => True

/-- What a call holds on to once an operation is answered. -/
def next : Hold → (o : Op) → Except PyExc o.Res → Hold
  | idle, .uuid4, .ok id => object id
  | loaded _ _, .uuid4, .ok id => object id
  | object _, .putObject key body _, .ok _ => stored key body.length
  | object _, .putObject _ _ _, .error _ => idle
  | stored key size, .sql (.insertReceipt _), .ok _ => staged key size
  | stored _ _, .deleteObject _, _ => idle
  | staged _ _, .commit, .ok _ => idle
  | staged key size, .commit, .error _ => stored key size
  | idle, .sql (.selectReceipts _ _), .ok [r] => loaded r.id r.storageKey
  | loaded id key, .sql (.deleteReceipt _), .ok _ => deleting id key
  | deleting _ key, .commit, .ok _ => gone key
  | deleting _ _, .commit, .error _ => idle
  | gone _, .deleteObject _, _ => idle
  | g, _, _ => g

/-- A hold that lets everything pass but writes to receipts and blobs. -/
def passive : Hold → Bool
  | idle => true
  | loaded _ _ => true
  | _ => false

theorem passive_cases {q : Hold} (h : q.passive = true) :
    q = idle ∨ ∃ id key, q = loaded id key := by
  cases q with
  | idle => exact Or.inl rfl
  | loaded id key => exact Or.inr ⟨id, key, rfl⟩
  | _ => cases h

/-- How many blobs of its own a call has in the bucket that no committed row names. -/
def held : Hold → ℕ
  | stored _ _ => 1
  | staged _ _ => 1
  | _ => 0

theorem held_of_passive {q : Hold} (h : q.passive = true) : q.held = 0 := by
  rcases passive_cases h with rfl | ⟨id, key, rfl⟩ <;> rfl

end Hold

/-- The bucket has a blob of this size under the key. -/
def HasBlob (blobs : List (String × List UInt8)) (key : String) (size : ℕ) : Prop :=
  ∃ body, blobs.lookup key = some body ∧ body.length = size

/-- Storing a blob under another key. -/
theorem HasBlob.put {blobs : List (String × List UInt8)} {key key' : String} {size : ℕ}
    (h : HasBlob blobs key size) (hne : key ≠ key') (body : List UInt8) :
    HasBlob ((key', body) :: blobs) key size := by
  obtain ⟨b, hb, hsize⟩ := h
  refine ⟨b, ?_, hsize⟩
  rw [List.lookup_cons, beq_eq_false_iff_ne.2 hne]
  exact hb

/-- Removing a blob under another key. -/
theorem HasBlob.wipe {blobs : List (String × List UInt8)} {key key' : String} {size : ℕ}
    (h : HasBlob blobs key size) (hne : key ≠ key') :
    HasBlob (blobs.filter (fun b => b.1 ≠ key')) key size := by
  obtain ⟨b, hb, hsize⟩ := h
  refine ⟨b, ?_, hsize⟩
  rw [← hb]
  clear hb
  induction blobs with
  | nil => rfl
  | cons p blobs ih =>
      obtain ⟨k, v⟩ := p
      by_cases hk : k = key'
      · rw [List.filter_cons_of_neg (by simpa using hk), ih, List.lookup_cons,
          beq_eq_false_iff_ne.2 (fun h => hne (h.trans hk))]
      · rw [List.filter_cons_of_pos (by simpa using hk), List.lookup_cons, List.lookup_cons, ih]

section keys

variable {ι : Type} [DecidableEq ι] {env : Env}

/-- Call `i` has no uncommitted receipts row. -/
def NoPuts (s : Store ι Receipt UUID Receipt.id) (i : ι) : Prop :=
  ∀ k v, s.staged i k ≠ some (some v)

/-- What call `i` holds on to is there. -/
def Hold.Holds (st : String → KeyStatus ι) (w : World ι) (i : ι) : Hold → Prop
  | .idle => NoPuts w.db.receipts i
  | .object id => NoPuts w.db.receipts i ∧ ∀ key, objectOf key = some id → st key = .owned i
  | .stored key size => NoPuts w.db.receipts i ∧ st key = .owned i ∧ HasBlob w.blobs key size
  | .staged key size => st key = .owned i ∧ HasBlob w.blobs key size ∧ w.failed i = false ∧
      ∃ id, ∀ k v, w.db.receipts.staged i k = some (some v) →
        k = id ∧ v.storageKey = key ∧ v.fileSizeBytes = size
  | .loaded id key => NoPuts w.db.receipts i ∧ (st key = .live id ∨ st key = .dead)
  | .deleting id key => NoPuts w.db.receipts i ∧ w.failed i = false ∧
      (st key = .dead ∨ st key = .live id ∧ w.db.receipts.staged i id = some none)
  | .gone key => NoPuts w.db.receipts i ∧ st key = .dead

/-- The identifier drawn at operation `n` is none of those before it. -/
def FreshAt (env : Env) (n : ℕ) : Prop := ∀ m < n, env.uuid4 m ≠ env.uuid4 n

/-- The keys of committed rows are live and have their blobs, and keys with a coming
object id are unused. -/
structure Keys (env : Env) (st : String → KeyStatus ι) (w : World ι) : Prop where
  live : ∀ k v, w.db.receipts.committed.get k = some v →
    st v.storageKey = .live k ∧ HasBlob w.blobs v.storageKey v.fileSizeBytes
  unused : ∀ key n, w.calls ≤ n → FreshAt env n → objectOf key = some (env.uuid4 n) →
    st key = .unused

/-- The keys and what the calls hold on to. -/
def KeysHeld (env : Env) (g : ι → Hold) (w : World ι) : Prop :=
  ∃ st, Keys env st w ∧ ∀ i, (g i).Holds st w i

/-- What another call may have done to the statuses that call `i` relies on. -/
structure Evolves (i : ι) (st st' : String → KeyStatus ι) : Prop where
  owned : ∀ key, st key = .owned i → st' key = .owned i
  live : ∀ key id, st key = .live id → st' key = .live id ∨ st' key = .dead
  dead : ∀ key, st key = .dead → st' key = .dead

omit [DecidableEq ι] in
theorem Evolves.refl (i : ι) (st : String → KeyStatus ι) : Evolves i st st :=
  ⟨fun _ h => h, fun _ _ h => Or.inl h, fun _ h => h⟩

/-- What a call holds on to stays there, while nobody writes its rows or its blobs. -/
theorem Hold.Holds.mono {st st' : String → KeyStatus ι} {w w' : World ι} {i : ι} {q : Hold}
    (h : q.Holds st w i) (hst : Evolves i st st')
    (hstaged : ∀ k, w'.db.receipts.staged i k = w.db.receipts.staged i k)
    (hfailed : w'.failed i = w.failed i)
    (hblob : ∀ key size, st key = .owned i → HasBlob w.blobs key size →
      HasBlob w'.blobs key size) : q.Holds st' w' i := by
  have hputs : NoPuts w.db.receipts i → NoPuts w'.db.receipts i := by
    intro hn k v
    rw [hstaged]
    exact hn k v
  cases q with
  | idle => exact hputs h
  | object id => exact ⟨hputs h.1, fun key hkey => hst.owned key (h.2 key hkey)⟩
  | stored key size => exact ⟨hputs h.1, hst.owned key h.2.1, hblob key size h.2.1 h.2.2⟩
  | staged key size =>
      obtain ⟨hown, hb, hf, id, hid⟩ := h
      refine ⟨hst.owned key hown, hblob key size hown hb, hfailed.trans hf, id, fun k v hv => ?_⟩
      rw [hstaged] at hv
      exact hid k v hv
  | loaded id key =>
      refine ⟨hputs h.1, ?_⟩
      rcases h.2 with hl | hd
      · exact hst.live key id hl
      · exact Or.inr (hst.dead key hd)
  | deleting id key =>
      refine ⟨hputs h.1, hfailed.trans h.2.1, ?_⟩
      rcases h.2.2 with hd | ⟨hl, hs⟩
      · exact Or.inl (hst.dead key hd)
      · rcases hst.live key id hl with hl' | hd'
        · exact Or.inr ⟨hl', (hstaged id).trans hs⟩
        · exact Or.inl hd'
  | gone key => exact ⟨hputs h.1, hst.dead key h.2⟩

/-- A step of call `i` that moves it to `q`: what is to be shown of it. -/
theorem KeysHeld.move {g : ι → Hold} {w w' : World ι} {i : ι} {q : Hold}
    {s t : String → KeyStatus ι} (hkeys : Keys env t w') (hat : ∀ j, (g j).Holds s w j)
    (hown : q.Holds t w' i) (hst : ∀ j, j ≠ i → Evolves j s t)
    (hstaged : ∀ j, j ≠ i → ∀ k, w'.db.receipts.staged j k = w.db.receipts.staged j k)
    (hfailed : ∀ j, j ≠ i → w'.failed j = w.failed j)
    (hblob : ∀ j, j ≠ i → ∀ key size, s key = .owned j → HasBlob w.blobs key size →
      HasBlob w'.blobs key size) : KeysHeld env (Function.update g i q) w' := by
  refine ⟨t, hkeys, fun j => ?_⟩
  by_cases hj : j = i
  · subst hj
    rwa [Function.update_self]
  · rw [Function.update_of_ne hj]
    exact (hat j).mono (hst j hj) (hstaged j hj) (hfailed j hj) (hblob j hj)

/-- A step that touches neither receipts nor blobs. -/
theorem KeysHeld.quiet {g : ι → Hold} {w w' : World ι} (h : KeysHeld env g w)
    (hdb : w'.db.receipts = w.db.receipts) (hblobs : w'.blobs = w.blobs)
    (hcalls : w.calls ≤ w'.calls) (hfailed : w'.failed = w.failed) : KeysHeld env g w' := by
  obtain ⟨st, hkeys, hat⟩ := h
  refine ⟨st, ⟨fun k v hv => ?_, fun key n hn hkey => hkeys.unused key n (by omega) hkey⟩,
    fun i => (hat i).mono (Evolves.refl i st) (fun k => by rw [hdb]) (by rw [hfailed])
      (fun key size _ hb => ?_)⟩
  · rw [hdb] at hv
    rw [hblobs]
    exact hkeys.live k v hv
  · rwa [hblobs]

/-- The end of a call, regular or not, and the failure of one of its statements. -/
theorem KeysHeld.rolledBack {g : ι → Hold} {w w' : World ι} {i : ι} {q : Hold}
    (h : KeysHeld env g w) (hdb : w'.db.receipts = w.db.receipts.rollback i)
    (hblobs : w'.blobs = w.blobs) (hcalls : w.calls ≤ w'.calls)
    (hfailed : ∀ j, j ≠ i → w'.failed j = w.failed j)
    (hq : ∀ st, (g i).Holds st w i → NoPuts w'.db.receipts i → q.Holds st w' i) :
    KeysHeld env (Function.update g i q) w' := by
  obtain ⟨st, hkeys, hat⟩ := h
  have hputs : NoPuts w'.db.receipts i := by
    intro k v
    rw [hdb, Store.staged_rollback, if_pos rfl]
    exact fun hc => nomatch hc
  refine KeysHeld.move (s := st) ⟨fun k v hv => ?_, fun key n hn => ?_⟩ hat (hq st (hat i) hputs)
    (fun j _ => Evolves.refl j st) (fun j hj k => ?_) hfailed (fun j _ key size _ hb => ?_)
  · rw [hdb, Store.committed_rollback] at hv
    rw [hblobs]
    exact hkeys.live k v hv
  · exact hkeys.unused key n (by omega)
  · rw [hdb, Store.staged_rollback, if_neg hj]
  · rwa [hblobs]

/-- A call that has no uncommitted row keeps what it holds on to when it is rolled back. -/
theorem Hold.Holds.rolledBack {st : String → KeyStatus ι} {w w' : World ι} {i : ι} {q : Hold}
    (h : q.Holds st w i) (hq : q.may .commit → False) (hputs : NoPuts w'.db.receipts i)
    (hblobs : w'.blobs = w.blobs) : q.Holds st w' i := by
  cases q with
  | idle => exact hputs
  | object id => exact ⟨hputs, h.2⟩
  | stored key size => exact ⟨hputs, h.2.1, by rw [hblobs]; exact h.2.2⟩
  | staged key size => exact (hq trivial).elim
  | loaded id key => exact ⟨hputs, h.2⟩
  | deleting id key => exact (hq trivial).elim
  | gone key => exact ⟨hputs, h.2⟩

/-- A call draws a new object id: the keys with it are unused, and become its own. -/
theorem KeysHeld.draw {g : ι → Hold} {w : World ι} {i : ι}
    (h : KeysHeld env g w) (hg : (g i).passive = true)
    (hdraw : FreshAt env w.calls) :
    KeysHeld env (Function.update g i (.object (env.uuid4 w.calls))) w.tick := by
  obtain ⟨st, hkeys, hat⟩ := h
  have hfree : ∀ key, objectOf key = some (env.uuid4 w.calls) → st key = .unused :=
    fun key hkey => hkeys.unused key w.calls le_rfl hdraw hkey
  classical
  let st' : String → KeyStatus ι := fun key =>
    if objectOf key = some (env.uuid4 w.calls) then .owned i else st key
  have hother : ∀ key, st key ≠ .unused → st' key = st key := by
    intro key hne
    exact if_neg (fun hkey => hne (hfree key hkey))
  have hputs : NoPuts w.db.receipts i := by
    have hi := hat i
    rcases Hold.passive_cases hg with hg | ⟨id, key, hg⟩
    · rwa [hg] at hi
    · rw [hg] at hi
      exact hi.1
  refine KeysHeld.move (t := st') ⟨fun k v hv => ?_, fun key n hn hnew hkey => ?_⟩ hat
    ⟨hputs, fun key hkey => if_pos hkey⟩ (fun j _ => ⟨fun key hk => ?_, fun key id hk => ?_,
      fun key hk => ?_⟩) (fun j _ k => rfl) (fun j _ => rfl) (fun j _ key size _ hb => hb)
  · obtain ⟨hlive, hb⟩ := hkeys.live k v hv
    refine ⟨?_, hb⟩
    rw [hother _ (by rw [hlive]; exact fun hc => nomatch hc)]
    exact hlive
  · have hn' : w.calls + 1 ≤ n := hn
    have hne : ¬objectOf key = some (env.uuid4 w.calls) := by
      intro hc
      rw [hkey, Option.some.injEq] at hc
      exact hnew w.calls hn' hc.symm
    show (if _ then _ else _) = _
    rw [if_neg hne]
    exact hkeys.unused key n (by omega) hnew hkey
  · rw [hother _ (by rw [hk]; exact fun hc => nomatch hc)]
    exact hk
  · rw [hother _ (by rw [hk]; exact fun hc => nomatch hc)]
    exact Or.inl hk
  · rw [hother _ (by rw [hk]; exact fun hc => nomatch hc)]
    exact hk

/-- A call stores a blob under a key of its own. -/
theorem KeysHeld.put {g : ι → Hold} {w w' : World ι} {i : ι} {id : UUID} {key : String}
    {b : List UInt8} {q : Hold} (h : KeysHeld env g w) (hg : g i = .object id)
    (hkey : objectOf key = some id) (hdb : w'.db = w.db)
    (hblobs : w'.blobs = w.blobs ∨ w'.blobs = (key, b) :: w.blobs) (hcalls : w.calls ≤ w'.calls)
    (hfailed : w'.failed = w.failed)
    (hq : q = .idle ∨ q = .stored key b.length ∧ w'.blobs = (key, b) :: w.blobs) :
    KeysHeld env (Function.update g i q) w' := by
  obtain ⟨st, hkeys, hat⟩ := h
  have hi := hat i
  rw [hg] at hi
  have hown := hi.2 key hkey
  have hblob : ∀ key' size, st key' ≠ .owned i → HasBlob w.blobs key' size →
      HasBlob w'.blobs key' size := by
    intro key' size hne hb
    rcases hblobs with heq | heq
    · rwa [heq]
    · rw [heq]
      exact hb.put (fun hc => hne (hc ▸ hown)) b
  refine KeysHeld.move (s := st) ⟨fun k v hv => ?_, fun key n hn => ?_⟩ hat ?_
    (fun j _ => Evolves.refl j st) (fun j _ k => by rw [hdb]) (fun j _ => by rw [hfailed])
    (fun j hj key' size hk hb => ?_)
  · rw [hdb] at hv
    obtain ⟨hlive, hb⟩ := hkeys.live k v hv
    exact ⟨hlive, hblob _ _ (by rw [hlive]; exact fun hc => nomatch hc) hb⟩
  · exact hkeys.unused key n (by omega)
  · have hputs : NoPuts w'.db.receipts i := by
      rw [hdb]
      exact hi.1
    rcases hq with rfl | ⟨rfl, heq⟩
    · exact hputs
    · refine ⟨hputs, hown, b, ?_, rfl⟩
      rw [heq, List.lookup_cons_self]
  · refine hblob key' size (fun hc => hj ?_) hb
    rw [hk] at hc
    exact KeyStatus.owned.inj hc

/-- A call removes a blob whose key is its own or dead. -/
theorem KeysHeld.wipe {g : ι → Hold} {w w' : World ι} {i : ι} {key : String}
    (h : KeysHeld env g w) (hdb : w'.db = w.db) (hcalls : w.calls ≤ w'.calls)
    (hfailed : w'.failed = w.failed)
    (hg : ∀ st, (g i).Holds st w i → NoPuts w.db.receipts i ∧ (st key = .owned i ∨ st key = .dead))
    (hblobs : w'.blobs = w.blobs ∨ w'.blobs = w.blobs.filter (fun b => b.1 ≠ key)) :
    KeysHeld env (Function.update g i .idle) w' := by
  obtain ⟨st, hkeys, hat⟩ := h
  obtain ⟨hputs, hkey⟩ := hg st (hat i)
  have hblob : ∀ key' size, st key' ≠ .owned i → st key' ≠ .dead → HasBlob w.blobs key' size →
      HasBlob w'.blobs key' size := by
    intro key' size hown hdead hb
    rcases hblobs with heq | heq
    · rwa [heq]
    · rw [heq]
      apply hb.wipe
      rintro rfl
      rcases hkey with hk | hk
      · exact hown hk
      · exact hdead hk
  refine KeysHeld.move (s := st) ⟨fun k v hv => ?_, fun key n hn => ?_⟩ hat ?_
    (fun j _ => Evolves.refl j st) (fun j _ k => by rw [hdb]) (fun j _ => by rw [hfailed])
    (fun j hj key' size hk hb => ?_)
  · rw [hdb] at hv
    obtain ⟨hlive, hb⟩ := hkeys.live k v hv
    exact ⟨hlive, hblob _ _ (by rw [hlive]; exact fun hc => nomatch hc)
      (by rw [hlive]; exact fun hc => nomatch hc) hb⟩
  · exact hkeys.unused key n (by omega)
  · show NoPuts w'.db.receipts i
    rw [hdb]
    exact hputs
  · refine hblob key' size (fun hc => hj ?_) (by rw [hk]; exact fun hc => nomatch hc) hb
    rw [hk] at hc
    exact KeyStatus.owned.inj hc

/-- A call stages the row of its blob. -/
theorem KeysHeld.insert {g : ι → Hold} {w w' : World ι} {i : ι} {key : String} {size : ℕ}
    (h : KeysHeld env g w) (hg : g i = .stored key size) {v : Receipt}
    (hv : v.storageKey = key ∧ v.fileSizeBytes = size)
    (hdb : w'.db.receipts = w.db.receipts.stage i (.put v)) (hblobs : w'.blobs = w.blobs)
    (hcalls : w.calls ≤ w'.calls) (hfailed : w'.failed = w.failed) (hi : w.failed i = false) :
    KeysHeld env (Function.update g i (.staged key size)) w' := by
  obtain ⟨st, hkeys, hat⟩ := h
  have hloc := hat i
  rw [hg] at hloc
  obtain ⟨hputs, hown, hb⟩ := hloc
  refine KeysHeld.move (s := st) ⟨fun k u hu => ?_, fun key n hn => ?_⟩ hat
    ⟨hown, by rwa [hblobs], by rw [hfailed, hi], v.id, fun k u hu => ?_⟩
    (fun j _ => Evolves.refl j st) (fun j hj k => ?_) (fun j _ => by rw [hfailed])
    (fun j _ key' size' _ hb' => by rwa [hblobs])
  · rw [hdb, Store.committed_stage] at hu
    rw [hblobs]
    exact hkeys.live k u hu
  · exact hkeys.unused key n (by omega)
  · rw [hdb, Store.staged_stage] at hu
    split at hu
    · rename_i hc
      cases hu
      exact ⟨hc.2.symm, hv⟩
    · exact absurd hu (hputs k u)
  · rw [hdb, Store.staged_stage, if_neg (fun hc => hj hc.1.symm)]

/-- A call publishes the row of its blob: its key is live from now on. -/
theorem KeysHeld.publish {g : ι → Hold} {w w' : World ι} {i : ι} {key : String} {size : ℕ}
    (h : KeysHeld env g w) (hg : g i = .staged key size)
    (hdb : w'.db.receipts = w.db.receipts.commit i) (hblobs : w'.blobs = w.blobs)
    (hcalls : w.calls ≤ w'.calls) (hfailed : w'.failed = w.failed) :
    KeysHeld env (Function.update g i .idle) w' := by
  obtain ⟨st, hkeys, hat⟩ := h
  have hi := hat i
  rw [hg] at hi
  obtain ⟨hown, hb, -, id, hid⟩ := hi
  let st' : String → KeyStatus ι := fun key' => if key' = key then .live id else st key'
  have hother : ∀ key', st key' ≠ .owned i → st' key' = st key' := by
    intro key' hne
    refine if_neg ?_
    rintro rfl
    exact hne hown
  have howned : ∀ {j : ι} {key'}, j ≠ i → st key' = .owned j → st' key' = .owned j := by
    intro j key' hj hk
    rw [hother key' (by rw [hk]; exact fun hc => hj (KeyStatus.owned.inj hc)), hk]
  refine KeysHeld.move (t := st') ⟨fun k v hv => ?_, fun key' n hn hnew hkey' => ?_⟩ hat ?_
    (fun j hj => ⟨fun key' hk => howned hj hk, fun key' id' hk => Or.inl ?_, fun key' hk => ?_⟩)
    (fun j hj k => ?_) (fun j _ => by rw [hfailed]) (fun j _ key' size' _ hb' => by rwa [hblobs])
  · rw [hdb, Store.get_commit] at hv
    rw [hblobs]
    cases hs : w.db.receipts.staged i k with
    | none =>
        rw [hs, Option.getD_none] at hv
        obtain ⟨hlive, hb'⟩ := hkeys.live k v hv
        refine ⟨?_, hb'⟩
        rw [hother _ (by rw [hlive]; exact fun hc => nomatch hc), hlive]
    | some u =>
        rw [hs, Option.getD_some] at hv
        subst hv
        obtain ⟨rfl, hk, hsz⟩ := hid k v hs
        rw [hk, hsz]
        exact ⟨if_pos rfl, hb⟩
  · have hun := hkeys.unused key' n (by omega) hnew hkey'
    rw [hother _ (by rw [hun]; exact fun hc => nomatch hc), hun]
  · intro k v
    rw [hdb, Store.staged_commit, if_pos rfl]
    exact fun hc => nomatch hc
  · rw [hother _ (by rw [hk]; exact fun hc => nomatch hc), hk]
  · rw [hother _ (by rw [hk]; exact fun hc => nomatch hc), hk]
  · rw [hdb, Store.staged_commit, if_neg hj]

/-- A call loads a committed row. -/
theorem KeysHeld.load {g : ι → Hold} {w w' : World ι} {i : ι} (h : KeysHeld env g w)
    (hg : g i = .idle) {v : Receipt} (hv : v ∈ (w.db.receipts.view i).rows)
    (hdb : w'.db = w.db) (hblobs : w'.blobs = w.blobs) (hcalls : w.calls ≤ w'.calls)
    (hfailed : w'.failed = w.failed) :
    KeysHeld env (Function.update g i (.loaded v.id v.storageKey)) w' := by
  obtain ⟨st, hkeys, hat⟩ := h
  have hi := hat i
  rw [hg] at hi
  have hcom : w.db.receipts.committed.get v.id = some v := by
    have hget := Table.get_of_mem hv
    rw [Store.get_view] at hget
    cases hs : w.db.receipts.staged i v.id with
    | none => rwa [hs, Option.getD_none] at hget
    | some u =>
        rw [hs, Option.getD_some] at hget
        rw [hget] at hs
        exact absurd hs (hi v.id v)
  refine KeysHeld.move (s := st) ⟨fun k u hu => ?_, fun key n hn => ?_⟩ hat
    ⟨?_, Or.inl (hkeys.live v.id v hcom).1⟩ (fun j _ => Evolves.refl j st)
    (fun j _ k => by rw [hdb]) (fun j _ => by rw [hfailed])
    (fun j _ key size _ hb => by rwa [hblobs])
  · rw [hdb] at hu
    rw [hblobs]
    exact hkeys.live k u hu
  · exact hkeys.unused key n (by omega)
  · rw [hdb]
    exact hi

omit [DecidableEq ι] in
/-- The statuses once a key is dead. -/
theorem evolves_dead [DecidableEq ι] {st : String → KeyStatus ι} {key : String} {id : UUID} (j : ι)
    (hkey : st key = .live id ∨ st key = .dead) :
    Evolves j st (fun key' => if key' = key then .dead else st key') := by
  refine ⟨fun key' hk => ?_, fun key' id' hk => ?_, fun key' hk => ?_⟩
  · have hne : key' ≠ key := by
      rintro rfl
      rw [hk] at hkey
      rcases hkey with hc | hc <;> cases hc
    rw [if_neg hne, hk]
  · by_cases hne : key' = key
    · rw [if_pos hne]
      exact Or.inr rfl
    · rw [if_neg hne, hk]
      exact Or.inl rfl
  · by_cases hne : key' = key
    · rw [if_pos hne]
    · rw [if_neg hne, hk]

omit [DecidableEq ι] in
/-- A key of which no committed row is left may be called dead. -/
theorem Keys.dead [DecidableEq ι] {st : String → KeyStatus ι} {w w' : World ι} {key : String} {id : UUID}
    (hkey : st key = .live id ∨ st key = .dead)
    (hlive : ∀ k v, w'.db.receipts.committed.get k = some v →
      v.storageKey ≠ key ∧ st v.storageKey = .live k ∧
        HasBlob w'.blobs v.storageKey v.fileSizeBytes)
    (hunused : ∀ key n, w.calls ≤ n → FreshAt env n → objectOf key = some (env.uuid4 n) →
      st key = .unused)
    (hcalls : w.calls ≤ w'.calls) :
    Keys env (fun key' => if key' = key then .dead else st key') w' := by
  refine ⟨fun k v hv => ?_, fun key' n hn hnew hkey' => ?_⟩
  · obtain ⟨hne, hl, hb⟩ := hlive k v hv
    rw [if_neg hne]
    exact ⟨hl, hb⟩
  · have hun := hunused key' n (by omega) hnew hkey'
    have hne : key' ≠ key := by
      rintro rfl
      rw [hun] at hkey
      rcases hkey with hc | hc <;> cases hc
    rw [if_neg hne, hun]

/-- A call deletes the row it has loaded, or finds it deleted. -/
theorem KeysHeld.delete {g : ι → Hold} {w w' : World ι} {i : ι} {id : UUID} {key : String}
    (h : KeysHeld env g w) (hg : g i = .loaded id key)
    (hdb : (w.db.receipts.view i).get id = none ∧ w'.db.receipts = w.db.receipts ∨
      w'.db.receipts = w.db.receipts.stage i (.del id))
    (hblobs : w'.blobs = w.blobs) (hcalls : w.calls ≤ w'.calls) (hfailed : w'.failed = w.failed)
    (hi : w.failed i = false) : KeysHeld env (Function.update g i (.deleting id key)) w' := by
  obtain ⟨st, hkeys, hat⟩ := h
  have hloc := hat i
  rw [hg] at hloc
  obtain ⟨hputs, hkey⟩ := hloc
  have hi' : w'.failed i = false := by rw [hfailed, hi]
  rcases hdb with ⟨hnone, hdb⟩ | hdb
  · -- the row is not committed any more
    have hcom : w.db.receipts.committed.get id = none ∨
        w.db.receipts.staged i id = some none := by
      rw [Store.get_view] at hnone
      cases hs : w.db.receipts.staged i id with
      | none =>
          rw [hs, Option.getD_none] at hnone
          exact Or.inl hnone
      | some u =>
          rw [hs, Option.getD_some] at hnone
          rw [hnone]
          exact Or.inr rfl
    rcases hcom with hcom | hcom
    · refine KeysHeld.move (w := w) (Keys.dead hkey (fun k v hv => ?_) hkeys.unused hcalls) hat
        ⟨?_, hi', Or.inl (if_pos rfl)⟩ (fun j _ => evolves_dead j hkey)
        (fun j _ k => by rw [hdb]) (fun j _ => by rw [hfailed])
        (fun j _ key' size _ hb => by rwa [hblobs])
      · rw [hdb] at hv
        obtain ⟨hl, hb⟩ := hkeys.live k v hv
        refine ⟨?_, hl, by rwa [hblobs]⟩
        rintro rfl
        rcases hkey with hk | hk
        · rw [hk] at hl
          cases hl
          rw [hcom] at hv
          cases hv
        · rw [hk] at hl
          cases hl
      · rw [hdb]
        exact hputs
    · refine KeysHeld.move (s := st) ⟨fun k v hv => ?_, fun key n hn => ?_⟩ hat ⟨?_, hi', ?_⟩
        (fun j _ => Evolves.refl j st) (fun j _ k => by rw [hdb]) (fun j _ => by rw [hfailed])
        (fun j _ key' size _ hb => by rwa [hblobs])
      · rw [hdb] at hv
        rw [hblobs]
        exact hkeys.live k v hv
      · exact hkeys.unused key n (by omega)
      · rw [hdb]
        exact hputs
      · rcases hkey with hk | hk
        · exact Or.inr ⟨hk, by rw [hdb]; exact hcom⟩
        · exact Or.inl hk
  · refine KeysHeld.move (s := st) ⟨fun k v hv => ?_, fun key n hn => ?_⟩ hat
      ⟨fun k v hv => ?_, hi', ?_⟩ (fun j _ => Evolves.refl j st) (fun j hj k => ?_)
      (fun j _ => by rw [hfailed]) (fun j _ key' size _ hb => by rwa [hblobs])
    · rw [hdb, Store.committed_stage] at hv
      rw [hblobs]
      exact hkeys.live k v hv
    · exact hkeys.unused key n (by omega)
    · rw [hdb, Store.staged_stage] at hv
      split at hv
      · cases hv
      · exact hputs k v hv
    · rcases hkey with hk | hk
      · refine Or.inr ⟨hk, ?_⟩
        rw [hdb, Store.staged_stage, if_pos ⟨rfl, rfl⟩]
        rfl
      · exact Or.inl hk
    · rw [hdb, Store.staged_stage, if_neg (fun hc => hj hc.1.symm)]

/-- A call commits its deletion: its key is dead from now on. -/
theorem KeysHeld.retire {g : ι → Hold} {w w' : World ι} {i : ι} {id : UUID} {key : String}
    (h : KeysHeld env g w) (hg : g i = .deleting id key)
    (hdb : w'.db.receipts = w.db.receipts.commit i) (hblobs : w'.blobs = w.blobs)
    (hcalls : w.calls ≤ w'.calls) (hfailed : w'.failed = w.failed) :
    KeysHeld env (Function.update g i (.gone key)) w' := by
  obtain ⟨st, hkeys, hat⟩ := h
  have hi := hat i
  rw [hg] at hi
  obtain ⟨hputs, -, hkey⟩ := hi
  have hkey' : st key = .live id ∨ st key = .dead := by
    rcases hkey with hk | hk
    · exact Or.inr hk
    · exact Or.inl hk.1
  refine KeysHeld.move (w := w) (Keys.dead hkey' (fun k v hv => ?_) hkeys.unused hcalls) hat
    ⟨fun k v => ?_, if_pos rfl⟩ (fun j _ => evolves_dead j hkey') (fun j hj k => ?_)
    (fun j _ => by rw [hfailed]) (fun j _ key' size _ hb => by rwa [hblobs])
  · rw [hdb, Store.get_commit] at hv
    have hcom : w.db.receipts.staged i k = none ∧
        w.db.receipts.committed.get k = some v := by
      cases hs : w.db.receipts.staged i k with
      | none =>
          rw [hs, Option.getD_none] at hv
          exact ⟨rfl, hv⟩
      | some u =>
          rw [hs, Option.getD_some] at hv
          rw [hv] at hs
          exact absurd hs (hputs k v)
    obtain ⟨hl, hb⟩ := hkeys.live k v hcom.2
    refine ⟨?_, hl, by rwa [hblobs]⟩
    rintro rfl
    rcases hkey with hk | ⟨hk, hs⟩
    · rw [hk] at hl
      cases hl
    · rw [hk] at hl
      cases hl
      rw [hcom.1] at hs
      cases hs
  · rw [hdb, Store.staged_commit, if_pos rfl]
    exact fun hc => nomatch hc
  · rw [hdb, Store.staged_commit, if_neg hj]

/-! ## One operation -/

/-- What an answer says about itself: a `SELECT` answers with rows it asked for. -/
def Sound : (o : Op) → Except PyExc o.Res → Prop
  | .sql (.selectReceipts _ p), .ok rows => ∀ v ∈ rows, p v = true
  | _, _ => True

theorem Sound.error {o : Op} {e : PyExc} : Sound o (.error e) := by
  cases o with
  | sql s => cases s <;> trivial
  | _ => trivial

/-- What a call holds on to after a statement that raised. -/
theorem Hold.next_sql_error (q : Hold) (s : Stmt) (e : PyExc) : q.next (.sql s) (.error e) = q := by
  cases q <;> cases s <;> rfl

/-- A call that holds on to what it did. -/
theorem KeysHeld.stay {g : ι → Hold} {w : World ι} {i : ι} {q : Hold} (h : KeysHeld env g w)
    (hq : q = g i) : KeysHeld env (Function.update g i q) w := by
  rw [hq, Function.update_eq_self]
  exact h

/-- **One statement** keeps the keys. -/
theorem KeysHeld.sql {g : ι → Hold} {w w' : World ι} {i : ι} {s : Stmt} {r : Except PyExc s.Res}
    (h : KeysHeld env g w) (hmay : (g i).may (.sql s)) (hx : exec env i (.sql s) w = some (r, w')) :
    KeysHeld env (Function.update g i ((g i).next (.sql s) r)) w' ∧ Sound (.sql s) r := by
  have hcommit : (g i).may .commit → False := by
    intro hc
    cases hg : g i <;> rw [hg] at hmay hc <;> first | exact hc | (cases s <;> exact hmay)
  rcases exec_sql_cases hx with ⟨-, rfl, rfl⟩ | ⟨-, ⟨e, rfl⟩, rfl⟩ | ⟨a, db, hf, rfl, hs, rfl⟩
  · rw [Hold.next_sql_error, Function.update_eq_self]
    exact ⟨h.quiet rfl rfl (Nat.le_succ _) rfl, Sound.error⟩
  · rw [Hold.next_sql_error]
    exact ⟨h.rolledBack rfl rfl (Nat.le_succ _) (fun j hj => if_neg hj)
      (fun st hi hputs => hi.rolledBack hcommit hputs rfl), Sound.error⟩
  · -- a statement that does not write receipts
    have hquiet : s.writesReceipts = false →
        KeysHeld env g ({ w with db := db } : World ι).tick := by
      intro hw
      exact h.quiet ((Stmt.exec_frame hs).receipts hw) rfl (Nat.le_succ _) rfl
    cases s with
    | insertReceipt v =>
        cases hg : g i with
        | stored key size =>
            rw [hg] at hmay
            refine ⟨?_, trivial⟩
            simp only [Stmt.exec] at hs
            split at hs
            · obtain ⟨⟨r, st⟩, hins, heq⟩ := Option.map_eq_some_iff.1 hs
              cases heq
              obtain ⟨-, -, -, rfl⟩ := insert_ok hins
              exact h.insert hg (v := v.stamp _) hmay rfl rfl (Nat.le_succ _) rfl hf
            · cases hs
        | _ => rw [hg] at hmay; exact hmay.elim
    | deleteReceipt k =>
        cases hg : g i with
        | loaded id key =>
            rw [hg] at hmay
            have hk : k = id := hmay
            subst hk
            refine ⟨?_, trivial⟩
            simp only [Stmt.exec] at hs
            split at hs
            · rename_i hnone
              cases hs
              exact h.delete hg (Or.inl ⟨hnone, rfl⟩) rfl (Nat.le_succ _) rfl hf
            · split at hs
              · cases hs
              · cases hs
                exact h.delete hg (Or.inr rfl) rfl (Nat.le_succ _) rfl hf
        | _ => rw [hg] at hmay; exact hmay.elim
    | updateReceipt k cols =>
        cases hg : g i <;> rw [hg] at hmay <;> exact hmay.elim
    | selectReceipts params p =>
        simp only [Stmt.exec, Option.some.injEq, Prod.mk.injEq] at hs
        obtain ⟨hrows, rfl⟩ := hs
        have hrows := select_ok hrows
        have hsound : Sound (.sql (.selectReceipts params p)) (.ok a) := by
          intro v hv
          rw [hrows, List.mem_filter] at hv
          exact hv.2
        refine ⟨?_, hsound⟩
        have hstay : KeysHeld env g w.tick := h.quiet rfl rfl (Nat.le_succ _) rfl
        cases hg : g i with
        | idle =>
            have hmem : ∀ v ∈ a, v ∈ (w.db.receipts.view i).rows := by
              intro v hv
              rw [hrows] at hv
              exact (List.mem_filter.1 hv).1
            clear hx hsound hrows
            rcases a with _ | ⟨v, _ | ⟨v', rows⟩⟩
            · exact hstay.stay hg.symm
            · exact h.load hg (hmem v (List.mem_singleton_self v)) rfl rfl (Nat.le_succ _) rfl
            · exact hstay.stay hg.symm
        | staged key size => rw [hg] at hmay; exact hmay.elim
        | deleting id key => rw [hg] at hmay; exact hmay.elim
        | _ => exact hstay.stay hg.symm
    | _ =>
        refine ⟨(hquiet rfl).stay ?_, trivial⟩
        cases g i <;> rfl

/-- **One operation** keeps the keys, as long as no commit takes effect and raises. -/
theorem KeysHeld.step {g : ι → Hold} {w w' : World ι} {i : ι} {o : Op} {r : Except PyExc o.Res}
    (h : KeysHeld env g w) (hmay : (g i).may o)
    (hsafe : o = .commit → env.fault w.calls ≠ .after) (hdraw : o = .uuid4 → FreshAt env w.calls)
    (hx : exec env i o w = some (r, w')) :
    KeysHeld env (Function.update g i ((g i).next o r)) w' ∧ Sound o r := by
  have htick : KeysHeld env g w.tick := h.quiet rfl rfl (Nat.le_succ _) rfl
  cases o with
  | sql s => exact h.sql hmay hx
  | commit =>
      refine ⟨?_, by cases r <;> trivial⟩
      cases hg : g i with
      | staged key size =>
          rcases exec_commit_sound (hsafe rfl) hx with ⟨hf, -, -⟩ | ⟨-, rfl, rfl⟩ | ⟨-, rfl, rfl⟩
          · obtain ⟨st, -, hat⟩ := h
            have hi := hat i
            rw [hg] at hi
            rw [hi.2.2.1] at hf
            cases hf
          · exact h.publish hg rfl rfl (Nat.le_succ _) rfl
          · refine h.rolledBack rfl rfl (Nat.le_succ _) (fun j hj => if_neg hj)
              (fun st hi hputs => ?_)
            rw [hg] at hi
            exact ⟨hputs, hi.1, hi.2.1⟩
      | deleting id key =>
          rcases exec_commit_sound (hsafe rfl) hx with ⟨hf, -, -⟩ | ⟨-, rfl, rfl⟩ | ⟨-, rfl, rfl⟩
          · obtain ⟨st, -, hat⟩ := h
            have hi := hat i
            rw [hg] at hi
            rw [hi.2.1] at hf
            cases hf
          · exact h.retire hg rfl rfl (Nat.le_succ _) rfl
          · exact h.rolledBack rfl rfl (Nat.le_succ _) (fun j hj => if_neg hj)
              (fun st hi hputs => hputs)
      | _ => rw [hg] at hmay; exact hmay.elim
  | rollback => cases hg : g i <;> rw [hg] at hmay <;> exact hmay.elim
  | putObject key body mime =>
      refine ⟨?_, by cases r <;> trivial⟩
      cases hg : g i with
      | object id =>
          rw [hg] at hmay
          cases hf : env.fault w.calls <;> simp only [exec, hf, World.effect] at hx <;> cases hx
          · exact h.put hg hmay rfl (Or.inr rfl) (Nat.le_succ _) rfl (Or.inr ⟨rfl, rfl⟩)
          · exact h.put (b := body) hg hmay rfl (Or.inl rfl) (Nat.le_succ _) rfl (Or.inl rfl)
          · exact h.put hg hmay rfl (Or.inr rfl) (Nat.le_succ _) rfl (Or.inl rfl)
      | _ => rw [hg] at hmay; exact hmay.elim
  | deleteObject key =>
      refine ⟨?_, by cases r <;> trivial⟩
      have hwipe : ∀ {r}, exec env i (.deleteObject key) w = some (r, w') → w'.db = w.db ∧
          w.calls ≤ w'.calls ∧ w'.failed = w.failed ∧
          (w'.blobs = w.blobs ∨ w'.blobs = w.blobs.filter (fun b => b.1 ≠ key)) := by
        intro r hx
        cases hf : env.fault w.calls <;> simp only [exec, hf, World.effect] at hx <;> cases hx
        · exact ⟨rfl, Nat.le_succ _, rfl, Or.inr rfl⟩
        · exact ⟨rfl, Nat.le_succ _, rfl, Or.inl rfl⟩
        · exact ⟨rfl, Nat.le_succ _, rfl, Or.inr rfl⟩
      obtain ⟨hdb, hcalls, hfailed, hblobs⟩ := hwipe hx
      cases hg : g i with
      | stored key' size =>
          rw [hg] at hmay
          have hk : key = key' := hmay
          subst hk
          refine h.wipe hdb hcalls hfailed (fun st hi => ?_) hblobs
          rw [hg] at hi
          exact ⟨hi.1, Or.inl hi.2.1⟩
      | gone key' =>
          rw [hg] at hmay
          have hk : key = key' := hmay
          subst hk
          refine h.wipe hdb hcalls hfailed (fun st hi => ?_) hblobs
          rw [hg] at hi
          exact ⟨hi.1, Or.inr hi.2⟩
      | _ => rw [hg] at hmay; exact hmay.elim
  | delay task =>
      refine ⟨?_, by cases r <;> trivial⟩
      cases hf : env.fault w.calls <;> simp only [exec, hf, World.effect] at hx <;> cases hx
      all_goals
        refine KeysHeld.stay (h.quiet ?_ ?_ (Nat.le_succ _) ?_) ?_ <;> try rfl
        cases g i <;> rfl
  | getObject key =>
      refine ⟨?_, by cases r <;> trivial⟩
      simp only [exec] at hx
      split at hx
      all_goals
        cases hx
        refine htick.stay ?_
        cases g i <;> rfl
  | uuid4 =>
      cases hx
      refine ⟨?_, trivial⟩
      cases hg : g i with
      | idle => exact h.draw (by rw [hg]; rfl) (hdraw rfl)
      | loaded id key => exact h.draw (by rw [hg]; rfl) (hdraw rfl)
      | staged key size => rw [hg] at hmay; exact hmay.elim
      | deleting id key => rw [hg] at hmay; exact hmay.elim
      | _ => exact htick.stay hg.symm
  | today | utcnow | ext x =>
      cases hx
      refine ⟨htick.stay ?_, trivial⟩
      cases g i <;> rfl

/-- The end of a call. -/
theorem KeysHeld.close {g : ι → Hold} {w : World ι} (h : KeysHeld env g w) (i : ι) :
    KeysHeld env (Function.update g i .idle) (w.close i) :=
  h.rolledBack rfl rfl le_rfl (fun _ hj => if_neg hj) (fun _ _ hputs => hputs)

/-- No commit takes effect and raises, and every identifier drawn is new. -/
def StepsSound (env : Env) (_ : ι) (o : Op) (w : World ι) : Prop :=
  (o = .commit → env.fault w.calls ≠ .after) ∧ (o = .uuid4 → FreshAt env w.calls)

/-- **The keys are kept in every run** whose steps are sound. -/
theorem keeps_keys :
    (backend env : Machine ι Op.Res PyExc (World ι) Empty).Keeps (KeysHeld env) (fun _ q o => q.may o)
      (fun _ q o r q' => q' = q.next o r ∧ Sound o r) (fun _ q (_ : Unit) => q.passive = true)
      (fun _ q _ => q.passive = true) (StepsSound env) True where
  step := by
    intro g w i o r w' h hmay hok hx
    obtain ⟨hkeys, hsound⟩ := h.step hmay hok.1 hok.2 hx
    exact ⟨_, ⟨rfl, hsound⟩, hkeys⟩
  ret := fun h _ => ⟨.idle, rfl, h.close _⟩
  raise := fun h _ => ⟨.idle, rfl, h.close _⟩
  kill := fun _ h => ⟨.idle, rfl, h.close _⟩
  event := fun {_ _ e} _ => e.elim

end keys

/-! ## The calls -/

/-- An upload or a deletion. -/
inductive ReceiptCall where
  | create (userId : UUID) (body : List UInt8) (messageId : Option String)
  | delete (userId receiptId : UUID)

/-- The call; what it returns does not matter here. -/
def ReceiptCall.run (env : Env) : ReceiptCall → Service Unit
  | create userId body messageId => do
      let _ ← createReceipt env userId body messageId
      return ()
  | delete userId receiptId => deleteReceipt userId receiptId

/-- A program that goes from one hold to another, and raises only in a passive one. -/
abbrev Goes {α : Type} (q : Hold) (p : Service α) (post : Hold → α → Prop) : Prop :=
  p.Follows Hold.may (fun q o r q' => q' = q.next o r ∧ Sound o r) post
    (fun q _ => q.passive = true) q

/-- The sequencing rule, with what the first program is known to do. -/
theorem Goes.bind {α β : Type} {q : Hold} {p : Service α} {f : α → Service β}
    {post : Hold → α → Prop} {post' : Hold → β → Prop} (hp : Goes q p post)
    (hf : ∀ q' a, post q' a → Goes q' (f a) post') : Goes q (p.bind f) post' :=
  Prog.Follows.bind (hp.mono hf (fun _ _ h => h))

theorem Goes.ret {α : Type} {q : Hold} {a : α} {post : Hold → α → Prop} (h : post q a) :
    Goes q (.ret a) post :=
  (Prog.follows_ret a).2 h

theorem Goes.raise {α : Type} {q : Hold} {e : PyExc} {post : Hold → α → Prop} (h : q.passive = true) :
    Goes q (.raise e) post :=
  (Prog.follows_raise e).2 h

/-- An operation in front of a program, raising or not. -/
theorem Goes.call {α : Type} {q : Hold} {o : Op} {k : Except PyExc o.Res → Service α}
    {post : Hold → α → Prop} (hmay : q.may o)
    (hk : ∀ r, Sound o r → Goes (q.next o r) (k r) post) : Goes q (.call o k) post := by
  refine (Prog.follows_call o k).2 ⟨hmay, fun r q' h => ?_⟩
  obtain ⟨rfl, hs⟩ := h
  exact hk r hs

/-- An operation in front of what it is needed for; if it raises, so does the whole. -/
theorem Goes.step {α : Type} {q : Hold} {o : Op} {f : o.Res → Service α}
    {post : Hold → α → Prop} (hmay : q.may o) (herr : ∀ e, (q.next o (.error e)).passive = true)
    (hok : ∀ a, Sound o (.ok a) → Goes (q.next o (.ok a)) (f a) post) :
    Goes q ((Prog.perform o).bind f) post := by
  refine Goes.call hmay (fun r hs => ?_)
  cases r with
  | ok a => exact hok a hs
  | error e => exact Goes.raise (herr e)

/-- Building a key ends with an object id in it. -/
theorem goes_buildReceiptKey (env : Env) {q : Hold} (hq : q.passive = true)
    (userId : UUID) (mime secret : String) :
    Goes q (buildReceiptKey env userId mime secret)
      (fun q key => ∃ id, q = .object id ∧ objectOf key = some id) := by
  unfold buildReceiptKey
  cases hext : extensionFor env.unicode mime with
  | none =>
      exact Goes.raise hq
  | some extension =>
      have hkey : ∀ (now : Date) (id : UUID), Goes (.object id) (.ret ("receipts/" ++
          env.userPrefix userId secret ++ "/" ++ String.ofList (Date.pad4 now.year) ++ "/" ++
          String.ofList (Date.pad2 now.month) ++ "/" ++ uuidStr id ++ "." ++ extension))
          (fun q key => ∃ id, q = .object id ∧ objectOf key = some id) :=
        fun now id => Goes.ret ⟨id, rfl,
          objectOf_append _ extension id (extensionFor_no_dot hext)⟩
      rcases Hold.passive_cases hq with rfl | ⟨k, key, rfl⟩
      · refine Goes.step ?_ (fun _ => rfl)
          (fun now _ => Goes.step ?_ (fun _ => rfl) (fun id _ => hkey now id)) <;> trivial
      · refine Goes.step ?_ (fun _ => rfl)
          (fun now _ => Goes.step ?_ (fun _ => rfl) (fun id _ => hkey now id)) <;> trivial

/-- Saving a row ends with nothing to hold on to. -/
theorem goes_saveReceipt (userId : UUID) (key mime : String) (size : ℕ) (mid : Option String) :
    Goes (.stored key size) (saveReceipt userId key mime size mid) (fun q _ => q = .idle) := by
  -- whatever raises, the blob is still the call's own
  have hwipe : ∀ e : PyExc, Goes (.stored key size)
      (do Prog.perform (Op.deleteObject key); throw e : Service UUID) (fun q _ => q = .idle) := by
    intro e
    refine Goes.step ?_ (fun _ => rfl) (fun _ _ => Goes.raise rfl)
    exact (rfl : key = key)
  unfold saveReceipt
  refine Goes.call trivial (fun r _ => ?_)
  cases r with
  | error e => exact hwipe e
  | ok id =>
      refine Goes.call ⟨rfl, rfl⟩ (fun r _ => ?_)
      cases r with
      | error e => exact hwipe e
      | ok a =>
          refine Goes.call trivial (fun r _ => ?_)
          cases r with
          | error e => exact hwipe e
          | ok a => exact Goes.ret rfl

theorem Hold.may_select {q : Hold} (h : q.passive = true) (params : List Param)
    (p : Receipt → Bool) : q.may (.sql (.selectReceipts params p)) := by
  rcases passive_cases h with rfl | ⟨id, key, rfl⟩ <;> trivial

theorem Hold.passive_next_error {q : Hold} (h : q.passive = true) (s : Stmt) (e : PyExc) :
    (q.next (.sql s) (.error e)).passive = true := by
  rw [Hold.next_sql_error]
  exact h

theorem Hold.passive_next_select {q : Hold} (h : q.passive = true) {params : List Param}
    {p : Receipt → Bool} (rows : List Receipt) :
    (q.next (.sql (.selectReceipts params p)) (.ok rows)).passive = true := by
  rcases passive_cases h with rfl | ⟨id, key, rfl⟩
  · match rows with
    | [] => rfl
    | [v] => rfl
    | _ :: _ :: _ => rfl
  · rfl

/-- Reading a row back and handing it on. -/
theorem goes_finish (env : Env) {q : Hold} (h : q.passive = true) (id : UUID) :
    Goes q (do
      let receipt ← refreshReceipt id
      enqueueProcessing env receipt.id
      return receipt) (fun q' _ => q'.passive = true) := by
  refine Prog.Follows.bind
    (Goes.step (Hold.may_select h _ _) (Hold.passive_next_error h _) (fun rows _ => ?_))
  have hq := @Hold.passive_next_select q h [] (fun r => r.id = id) rows
  match rows with
  | [] => exact Goes.raise hq
  | v :: vs =>
      generalize q.next _ _ = q' at hq ⊢
      refine Goes.ret ?_
      show Goes q' ((enqueueProcessing env v.id).bind _) _
      unfold enqueueProcessing
      split
      · exact Goes.ret hq
      · rcases Hold.passive_cases hq with rfl | ⟨k, key, rfl⟩
        · refine Goes.step ?_ (fun _ => rfl) (fun _ _ => Goes.ret rfl)
          trivial
        · refine Goes.step ?_ (fun _ => rfl) (fun _ _ => Goes.ret rfl)
          trivial

/-- Uploading keeps to its holds. -/
theorem goes_createReceipt (env : Env) {q : Hold} (hq : q.passive = true) (userId : UUID)
    (body : List UInt8) (mid : Option String) :
    Goes q (createReceipt env userId body mid) (fun q' _ => q'.passive = true) := by
  cases hvet : vetUpload body with
  | error e =>
      rw [createReceipt_of_vet_error hvet]
      exact Goes.raise hq
  | ok mime =>
      rw [(createReceipt_of_vet_ok env userId mid hvet).2]
      unfold persistReceipt
      refine Goes.bind (goes_buildReceiptKey env hq userId mime env.settings.jwtSecret) ?_
      rintro q key ⟨id, rfl, hkey⟩
      refine Goes.step hkey (fun _ => rfl) (fun _ _ => ?_)
      refine Goes.bind (goes_saveReceipt userId key mime body.length mid) ?_
      rintro q id' rfl
      exact goes_finish env rfl id'

/-- Clearing the link of expenses touches no hold. -/
theorem goes_unlink (id : UUID) (key : String) (linked : List Expense) :
    Goes (.loaded id key) (linked.forM (fun e => sql (.updateExpense e.id [.receiptId none])))
      (fun q _ => q = .loaded id key) := by
  induction linked with
  | nil => exact Goes.ret rfl
  | cons e linked ih =>
      refine Goes.step ?_ (fun _ => rfl) (fun _ _ => ih)
      trivial

/-- Deleting keeps to its holds. -/
theorem goes_deleteReceipt (userId receiptId : UUID) :
    Goes .idle (deleteReceipt userId receiptId) (fun q _ => q = .idle) := by
  unfold deleteReceipt getReceipt
  refine Prog.Follows.bind (Goes.step ?_ (fun _ => rfl) (fun rows hrows => ?_))
  · trivial
  match rows, hrows with
  | [], _ => exact Goes.raise rfl
  | _ :: _ :: _, _ => exact Goes.raise rfl
  | [v], hrows =>
      have hv : v.id = receiptId := by
        have := hrows v (List.mem_singleton_self v)
        rw [Bool.and_eq_true, decide_eq_true_eq] at this
        exact this.1
      subst hv
      refine Goes.ret ?_
      show Goes (.loaded v.id v.storageKey) (Prog.bind (sql _) _) _
      refine Goes.step ?_ (fun _ => rfl) (fun linked _ => ?_)
      · trivial
      refine Goes.bind (goes_unlink v.id v.storageKey linked) ?_
      rintro q _ rfl
      refine Goes.step ?_ (fun _ => rfl) (fun _ _ => Goes.step ?_ (fun _ => rfl)
        (fun _ _ => Goes.call ?_ (fun r _ => ?_)))
      · exact (rfl : v.id = v.id)
      · trivial
      · exact (rfl : v.storageKey = v.storageKey)
      cases r <;> exact Goes.ret rfl

theorem goes_run (env : Env) (call : ReceiptCall) :
    Goes .idle (call.run env) (fun q _ => q.passive = true) := by
  cases call with
  | create userId body messageId =>
      exact Goes.bind (goes_createReceipt env rfl userId body messageId)
        (fun _ _ hq => Goes.ret hq)
  | delete userId receiptId =>
      exact (goes_deleteReceipt userId receiptId).mono (fun _ _ hq => by rw [hq]; rfl) (fun _ _ h => h)

/-! ## Every row has its blob -/

/-- Every committed row names a blob of its size, and no two name the same. -/
structure BlobsSound {ι : Type} (w : World ι) : Prop where
  blob : ∀ v ∈ w.db.receipts.committed.rows, HasBlob w.blobs v.storageKey v.fileSizeBytes
  distinct : ∀ u ∈ w.db.receipts.committed.rows, ∀ v ∈ w.db.receipts.committed.rows,
    u.storageKey = v.storageKey → u = v

/-- The calls and the state they start from. -/
def receiptCalls {ι : Type} (env : Env) (calls : ι → ReceiptCall) (w : World ι) :
    Config ι Op.Res PyExc Unit (World ι) :=
  ⟨fun i => (calls i).run env, w⟩

/-- **No receipts row points at a missing blob**, in any run of any calls, whatever fails
and whichever call dies. -/
theorem blobsSound_run {ι : Type} [DecidableEq ι] (env : Env) (calls : ι → ReceiptCall)
    (w : World ι) (as : List (Machine.Action ι Empty)) (hpending : w.db.receipts.pending = [])
    (hsound : BlobsSound w)
    (hfresh : ∀ v ∈ w.db.receipts.committed.rows, ∀ n, objectOf v.storageKey ≠ some (env.uuid4 n))
    (hsteps : (backend env).Along (Machine.OpOk (StepsSound env) True)
      (receiptCalls env calls w) as) :
    BlobsSound ((backend env).run (receiptCalls env calls w) as).shared := by
  -- at first the keys of the rows are live, and no other key is in use
  have hstart : KeysHeld env (fun _ => Hold.idle) w := by
    classical
    let st : String → KeyStatus ι := fun key =>
      if h : ∃ v ∈ w.db.receipts.committed.rows, v.storageKey = key then .live h.choose.id
      else .unused
    refine ⟨st, ⟨fun k v hv => ?_, fun key n _ _ hkey => ?_⟩, fun i k v hv => ?_⟩
    · have hmem := Table.mem_of_get hv
      have hex : ∃ u ∈ w.db.receipts.committed.rows, u.storageKey = v.storageKey := ⟨v, hmem, rfl⟩
      refine ⟨?_, hsound.blob v hmem⟩
      have heq := hsound.distinct _ hex.choose_spec.1 v hmem hex.choose_spec.2
      show (if h : _ then _ else _) = _
      rw [dif_pos hex, heq, Table.key_of_get hv]
    · refine dif_neg ?_
      rintro ⟨v, hv, rfl⟩
      exact hfresh v hv n hkey
    · have hsome : (w.db.receipts.staged i k).isSome := by rw [hv]; rfl
      rw [Store.isSome_staged_iff, hpending] at hsome
      obtain ⟨x, hx, -⟩ := hsome
      cases hx
  have hrun := keeps_keys.run (c := receiptCalls env calls w) hsteps
    ⟨fun _ => .idle, hstart, fun i => goes_run env (calls i)⟩
  obtain ⟨g, ⟨st, hkeys, -⟩, -⟩ := hrun
  refine ⟨fun v hv => (hkeys.live v.id v (Table.get_of_mem hv)).2, fun u hu v hv heq => ?_⟩
  have hul := (hkeys.live u.id u (Table.get_of_mem hu)).1
  have hvl := (hkeys.live v.id v (Table.get_of_mem hv)).1
  rw [heq, hvl] at hul
  exact Table.eq_of_mem_of_key hu hv (KeyStatus.live.inj hul).symm

/-- The identifiers of the quiet surroundings are new for a long time. -/
theorem freshAt_quiet {n : ℕ} (h : n < 1000) : FreshAt Env.quiet n := by
  intro m hm heq
  have hval := congrArg Fin.val heq
  change (1000 + m) % 2 ^ 128 = (1000 + n) % 2 ^ 128 at hval
  omega

/-- Two uploads and the deletion of a receipt, with an upload that dies half way. -/
theorem blobsSound_run_sample :
    BlobsSound ((backend Env.quiet).run (receiptCalls Env.quiet
      (fun i : Fin 3 => if i = 2 then .delete 7 1003 else .create 7 [0xff, 0xd8, 0xff] none)
      (World.ofDb (Db.ofUsers []))) ([.step 0, .step 1, .step 0, .step 1, .step 0, .kill 1] ++
        List.replicate 5 (.step 0) ++ List.replicate 4 (.step 2))).shared := by
  refine blobsSound_run Env.quiet _ _ _ rfl
    ⟨fun _ hv => (nomatch hv), fun _ hu _ _ => (nomatch hu)⟩ (fun _ hv => (nomatch hv)) ?_
  exact along_of_calls_lt (n := 1000)
    (fun _ _ _ hw => ⟨fun _ h => (nomatch h), fun _ => freshAt_quiet hw⟩) (fun _ _ => trivial)
    (by decide)

end SpendLens
