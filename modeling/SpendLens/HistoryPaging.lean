/-
# The pages of a mailbox's history

The walk of the history reads one page after the other and ends with a page that names no
next one, with an answer that is no page, or with a 404: the cursor is older than what Gmail
remembers, and there is nothing to collect.  The last exit is the same wherever the 404 comes.
What the walk collects is the ids of the pages it has read, each where it first occurs,
unless a 404 breaks it off behind a page with ids.
-/
import SpendLens.GmailSync
import Mathlib.Data.List.Infix

namespace SpendLens

namespace History

/-! ## Ids on pages -/

/-- The elements of a value that is a list. -/
def elements : Option Json → List Json
  | some (.arr xs) => xs
  | _ => []

/-- The id of the message a record is about, if it has one. -/
def messageId (record : Json) : Option String :=
  match (record.get? "message").bind (Json.get? "id") with
  | some (.str mid) => if mid = "" then none else some mid
  | _ => none

/-- The ids under `messagesAdded` of one history record, in order. -/
def entryIds (entry : Json) : List String :=
  (elements (entry.get? "messagesAdded")).filterMap messageId

/-- The ids on a page. -/
def idsOn (body : Json) : List String :=
  (elements (body.get? "history")).flatMap entryIds

/-- The ids an answer carries; only an answer with status 200 is a page. -/
def pageIds (resp : Response) : List String :=
  if resp.statusCode = 200 then resp.json.toOption.elim [] idsOn else []

/-- **The distinct members of a list**, in the order in which they first appear. -/
structure Collected (ids all : List String) : Prop where
  complete : ∀ mid, mid ∈ ids ↔ mid ∈ all
  ordered : ids.Pairwise (fun a b => all.idxOf a < all.idxOf b)

/-! ## A finite sequence of responses -/

/-- Answer every `GET` with the next response, as long as there is one. -/
def serveResponses : (o : Op) → List Response → Except PyExc o.Res × List Response
  | .ext (.httpGet _ _ _), resp :: rest => (.ok resp, rest)
  | _, rest => (.error .httpError, rest)

/-- The walk of the history against some responses, and the responses it leaves unread. -/
def walkHistory (pages : ℕ) (accessToken startHistoryId : String) (responses : List Response) :
    Except PyExc (List String) × List Response :=
  Prog.run serveResponses (listAddedMessageIds pages accessToken startHistoryId) responses

/-- **Nothing is lost**: the walk raises, or collects the ids of all pages it has read; it
collects nothing only if the first answer is a 404 or no page carries an id. -/
def LosesNothing (pages : ℕ) (accessToken startHistoryId : String) (responses : List Response) :
    Prop :=
  match walkHistory pages accessToken startHistoryId responses with
  | (.error _, _) => True
  | (.ok ids, unread) =>
      let read := responses.take (responses.length - unread.length)
      Collected ids (read.flatMap pageIds) ∧
        (ids = [] → (∃ first, responses.head? = some first ∧ first.statusCode = 404) ∨
          ∀ page ∈ read, pageIds page = [])

/-- What the walk makes of one page. -/
def readPage (seen : List String) (resp : Response) : Except PyExc (List String × Option String) := do
  let body ← resp.json
  let history ← iterate (← jsonGet "history" body)
  let seen ← history.foldlM addedIds seen
  return (seen, ← nextPageToken body)

/-- A page that can be read and names a next one. -/
structure Continues (resp : Response) : Prop where
  status : resp.statusCode = 200
  next : ∃ ids token, readPage [] resp = .ok (ids, some token)

/-- A 404 comes behind pages of which some carries an id. -/
def BrokenOff (responses : List Response) : Prop :=
  ∃ earlier resp later, responses = earlier ++ resp :: later ∧ resp.statusCode = 404 ∧
    (∀ page ∈ earlier, Continues page) ∧ ∃ page ∈ earlier, pageIds page ≠ []

/-! ## One page -/

/-- Collect more ids. -/
def extend (seen ids : List String) : List String :=
  ids.foldl (fun seen mid => if mid ∈ seen then seen else seen ++ [mid]) seen

@[simp] theorem extend_nil (seen : List String) : extend seen [] = seen := rfl

theorem extend_append (seen ids ids' : List String) :
    extend seen (ids ++ ids') = extend (extend seen ids) ids' :=
  List.foldl_append

theorem extend_cons (seen ids : List String) (mid : String) :
    extend seen (mid :: ids) = extend (if mid ∈ seen then seen else seen ++ [mid]) ids := rfl

/-- What is collected from nothing is the distinct ids in order. -/
theorem collected_extend (all : List String) : Collected (extend [] all) all := by
  induction all using List.reverseRecOn with
  | nil => exact ⟨fun mid => Iff.rfl, List.Pairwise.nil⟩
  | append_singleton all mid ih =>
      have hidx : ∀ a ∈ extend [] all, (all ++ [mid]).idxOf a = all.idxOf a :=
        fun a ha => List.idxOf_append_of_mem ((ih.complete a).1 ha)
      have hold : (extend [] all).Pairwise
          (fun a b => (all ++ [mid]).idxOf a < (all ++ [mid]).idxOf b) := by
        refine ih.ordered.imp_of_mem fun ha hb hab => ?_
        rw [hidx _ ha, hidx _ hb]
        exact hab
      rw [extend_append, extend_cons, extend_nil]
      by_cases hmid : mid ∈ extend [] all
      · rw [if_pos hmid]
        refine ⟨fun a => ?_, hold⟩
        rw [ih.complete a, List.mem_append, List.mem_singleton]
        constructor
        · exact Or.inl
        · rintro (ha | rfl)
          · exact ha
          · exact (ih.complete _).1 hmid
      · have hnew : mid ∉ all := fun h => hmid ((ih.complete mid).2 h)
        rw [if_neg hmid]
        refine ⟨fun a => ?_, List.pairwise_append.2 ⟨hold, List.pairwise_singleton _ _, ?_⟩⟩
        · rw [List.mem_append, List.mem_append, ih.complete a]
        · intro a ha b hb
          rw [List.mem_singleton.1 hb, hidx a ha, List.idxOf_append_of_notMem hnew]
          have hlt : all.idxOf a < all.length := List.idxOf_lt_length_of_mem ((ih.complete a).1 ha)
          omega

/-- A fold whose steps fail whatever has been folded so far, or never. -/
theorem foldlM_total {α σ ε : Type} {f : σ → α → Except ε σ} {g : σ → α → σ}
    (h : ∀ x, (∀ s, ∃ e, f s x = .error e) ∨ ∀ s, f s x = .ok (g s x)) (xs : List α) :
    (∀ s, ∃ e, xs.foldlM f s = .error e) ∨ ∀ s, xs.foldlM f s = .ok (xs.foldl g s) := by
  induction xs with
  | nil => exact Or.inr fun s => rfl
  | cons x xs ih =>
      rcases h x with hfail | hok
      · refine Or.inl fun s => ?_
        obtain ⟨e, he⟩ := hfail s
        exact ⟨e, by rw [List.foldlM_cons, he]; rfl⟩
      · have hstep : ∀ s, (x :: xs).foldlM f s = xs.foldlM f (g s x) := by
          intro s
          rw [List.foldlM_cons, hok s]
          rfl
        rcases ih with hfail | hok
        · exact Or.inl fun s => by rw [hstep]; exact hfail _
        · exact Or.inr fun s => by rw [hstep, hok, List.foldl_cons]

theorem foldl_extend {α : Type} (ids : α → List String) (xs : List α) (seen : List String) :
    xs.foldl (fun seen x => extend seen (ids x)) seen = extend seen (xs.flatMap ids) := by
  induction xs generalizing seen with
  | nil => rfl
  | cons x xs ih => rw [List.foldl_cons, ih, List.flatMap_cons, extend_append]

theorem dictKeys_ne_nil {kvs : List (String × Json)} (h : kvs ≠ []) : dictKeys kvs ≠ [] := by
  have hgrow : ∀ (kvs : List (String × Json)) (keys : List String), keys ≠ [] →
      kvs.foldl (fun keys kv => if kv.1 ∈ keys then keys else keys ++ [kv.1]) keys ≠ [] := by
    intro kvs
    induction kvs with
    | nil => exact fun keys hkeys => hkeys
    | cons kv kvs ih =>
        intro keys hkeys
        rw [List.foldl_cons]
        refine ih _ ?_
        split
        · exact hkeys
        · simp
  cases kvs with
  | nil => exact absurd rfl h
  | cons kv kvs => exact hgrow kvs [kv.1] (List.cons_ne_nil _ _)

/-- A fold over an iteration, with a step that refuses texts: only a list has elements it can
fold over. -/
theorem foldlM_iterate {σ : Type} {f : σ → Json → Except PyExc σ}
    (hf : ∀ s text, ∃ e, f s (.str text) = .error e) (value : Option Json) :
    (∀ s, ∃ e, (iterate value >>= fun xs => xs.foldlM f s) = .error e) ∨
      ∀ s, (iterate value >>= fun xs => xs.foldlM f s) = (elements value).foldlM f s := by
  have htexts : ∀ texts : List String, texts ≠ [] → ∀ s, ∃ e,
      ((texts.map Json.str).foldlM f s : Except PyExc σ) = .error e := by
    intro texts htexts s
    cases texts with
    | nil => exact absurd rfl htexts
    | cons text texts =>
        obtain ⟨e, he⟩ := hf s text
        exact ⟨e, by rw [List.map_cons, List.foldlM_cons, he]; rfl⟩
  cases value with
  | none => exact Or.inr fun s => rfl
  | some v =>
      by_cases htrue : v.truthy = true
      · cases v with
        | arr xs =>
            refine Or.inr fun s => ?_
            rw [iterate, if_pos htrue]
            rfl
        | str text =>
            refine Or.inl fun s => ?_
            have hne : text.toList.map (fun c => String.ofList [c]) ≠ [] := by
              intro hnil
              rw [List.map_eq_nil_iff, String.toList_eq_nil_iff] at hnil
              subst hnil
              exact absurd htrue (by decide)
            obtain ⟨e, he⟩ := htexts _ hne s
            refine ⟨e, ?_⟩
            rw [iterate, if_pos htrue, ← he, List.map_map]
            rfl
        | obj kvs =>
            refine Or.inl fun s => ?_
            have hne : kvs ≠ [] := by
              rintro rfl
              exact absurd htrue (by decide)
            obtain ⟨e, he⟩ := htexts _ (dictKeys_ne_nil hne) s
            refine ⟨e, ?_⟩
            rw [iterate, if_pos htrue]
            exact he
        | null | bool | int | float | special =>
            refine Or.inl fun s => ⟨.typeError, ?_⟩
            simp only [iterate, htrue, if_true]
            rfl
      · refine Or.inr fun s => ?_
        have hnone : elements (some v) = [] := by
          cases v with
          | arr xs =>
              cases xs with
              | nil => rfl
              | cons x xs => exact absurd rfl htrue
          | _ => rfl
        have hfalsy : iterate (some v) = .ok [] := by
          show (if v.truthy = true then _ else Except.ok []) = _
          rw [if_neg htrue]
        rw [hfalsy, hnone]
        rfl

/-- One record of `messagesAdded`. -/
def addRecord (seen : List String) (record : Json) : Except PyExc (List String) := do
  match ← jsonGet "message" record with
  | some (.obj kvs) =>
      match (Json.obj kvs).get? "id" with
      | some (.str mid) => return if mid = "" ∨ mid ∈ seen then seen else seen ++ [mid]
      | _ => return seen
  | _ => return seen

/-- What a record adds. -/
theorem addRecord_obj (seen : List String) (kvs : List (String × Json)) :
    addRecord seen (.obj kvs) = .ok (extend seen (messageId (.obj kvs)).toList) := by
  have hget : jsonGet "message" (.obj kvs) = .ok ((Json.obj kvs).get? "message") := rfl
  rw [addRecord, messageId, hget]
  cases (Json.obj kvs).get? "message" with
  | none => rfl
  | some message =>
      cases message with
      | obj kvs =>
          rw [Option.bind_some]
          cases hid : (Json.obj kvs).get? "id" with
          | none => simp only [bind, Except.bind, hid]; rfl
          | some id =>
              cases id with
              | str mid =>
                  by_cases hempty : mid = ""
                  · simp only [bind, Except.bind, hid, hempty, true_or, if_true]
                    rfl
                  · simp only [bind, Except.bind, hid, hempty, false_or, if_false]
                    rfl
              | _ => simp only [bind, Except.bind, hid]; rfl
      | _ => rfl

theorem record_total (record : Json) :
    (∀ seen, ∃ e, addRecord seen record = .error e) ∨
      ∀ seen, addRecord seen record = .ok (extend seen (messageId record).toList) := by
  cases record with
  | obj kvs => exact Or.inr fun seen => addRecord_obj seen kvs
  | _ => exact Or.inl fun seen => ⟨.attributeError, rfl⟩

/-- A list of readable steps is iterated over, or an iteration fails. -/
theorem iterate_total {f : List String → Json → Except PyExc (List String)}
    {ids : Json → List String}
    (htext : ∀ seen text, ∃ e, f seen (.str text) = .error e)
    (h : ∀ x, (∀ seen, ∃ e, f seen x = .error e) ∨ ∀ seen, f seen x = .ok (extend seen (ids x)))
    (value : Option Json) :
    (∀ seen, ∃ e, (iterate value >>= fun xs => xs.foldlM f seen) = .error e) ∨
      ∀ seen, (iterate value >>= fun xs => xs.foldlM f seen) =
        .ok (extend seen ((elements value).flatMap ids)) := by
  rcases foldlM_iterate htext value with hfail | hlist
  · exact Or.inl hfail
  · rcases foldlM_total h (elements value) with hfail | hok
    · exact Or.inl fun seen => by rw [hlist]; exact hfail seen
    · exact Or.inr fun seen => by rw [hlist, hok, foldl_extend]

theorem flatMap_messageId (records : List Json) :
    records.flatMap (fun record => (messageId record).toList) = records.filterMap messageId := by
  induction records with
  | nil => rfl
  | cons record records ih =>
      rw [List.flatMap_cons, ih]
      cases hid : messageId record with
      | none => rw [List.filterMap_cons_none hid]; rfl
      | some mid => rw [List.filterMap_cons_some hid]; rfl

/-- One entry of the history adds its ids, or cannot be read. -/
theorem entry_total (entry : Json) :
    (∀ seen, ∃ e, addedIds seen entry = .error e) ∨
      ∀ seen, addedIds seen entry = .ok (extend seen (entryIds entry)) := by
  cases entry with
  | obj kvs =>
      have hids := flatMap_messageId (elements ((Json.obj kvs).get? "messagesAdded"))
      rw [entryIds, ← hids]
      exact iterate_total (fun seen text => ⟨.attributeError, rfl⟩) record_total
        ((Json.obj kvs).get? "messagesAdded")
  | _ => exact Or.inl fun seen => ⟨.attributeError, rfl⟩

/-- **One page**: it cannot be read, or adds its ids and names a next page or none. -/
theorem page_total (resp : Response) :
    (∀ seen, ∃ e, readPage seen resp = .error e) ∨
      ∃ body next, resp.json = .ok body ∧
        ∀ seen, readPage seen resp = .ok (extend seen (idsOn body), next) := by
  unfold readPage
  cases resp.json with
  | error e => exact Or.inl fun seen => ⟨e, rfl⟩
  | ok body =>
      cases body with
      | obj kvs =>
          have hnext : ∃ next, nextPageToken (.obj kvs) = .ok next := by
            have hget : jsonGet "nextPageToken" (.obj kvs) =
                .ok ((Json.obj kvs).get? "nextPageToken") := rfl
            rw [nextPageToken, hget]
            cases (Json.obj kvs).get? "nextPageToken" with
            | none => exact ⟨none, rfl⟩
            | some token =>
                cases token with
                | str token => exact ⟨_, rfl⟩
                | _ => exact ⟨none, rfl⟩
          obtain ⟨next, hnext⟩ := hnext
          have hread : ∀ seen, (do
              let history ← iterate (← jsonGet "history" (.obj kvs))
              let seen ← history.foldlM addedIds seen
              return (seen, ← nextPageToken (.obj kvs)) : Except PyExc _) =
              (iterate ((Json.obj kvs).get? "history") >>= fun xs => xs.foldlM addedIds seen).map
                (fun seen => (seen, next)) := by
            intro seen
            rw [hnext]
            show (iterate ((Json.obj kvs).get? "history")).bind
              (fun history => (history.foldlM addedIds seen).bind fun seen => .ok (seen, next)) = _
            cases iterate ((Json.obj kvs).get? "history") with
            | error e => rfl
            | ok history => rfl
          rcases iterate_total (fun seen text => ⟨.attributeError, rfl⟩) entry_total
            ((Json.obj kvs).get? "history") with hfail | hok
          · refine Or.inl fun seen => ?_
            obtain ⟨e, he⟩ := hfail seen
            exact ⟨e, by rw [← Except.map_error (f := fun seen => (seen, next)), ← he]; exact hread seen⟩
          · refine Or.inr ⟨.obj kvs, next, rfl, fun seen => ?_⟩
            refine (hread seen).trans ?_
            rw [hok seen]
            rfl
      | _ => exact Or.inl fun seen => ⟨.attributeError, rfl⟩

theorem pageIds_of_json {resp : Response} {body : Json} (hstatus : resp.statusCode = 200)
    (hbody : resp.json = .ok body) : pageIds resp = idsOn body := by
  rw [pageIds, if_pos hstatus, hbody]
  rfl

theorem pageIds_of_notFound {resp : Response} (hstatus : resp.statusCode = 404) :
    pageIds resp = [] := by
  rw [pageIds, if_neg (by omega)]

/-- A page that is read adds its ids. -/
theorem readPage_ok {resp : Response} {seen ids : List String} {next : Option String}
    (hstatus : resp.statusCode = 200) (h : readPage seen resp = .ok (ids, next)) :
    ids = extend seen (pageIds resp) ∧
      ∀ seen, readPage seen resp = .ok (extend seen (pageIds resp), next) := by
  rcases page_total resp with hfail | ⟨body, next', hbody, hok⟩
  · obtain ⟨e, he⟩ := hfail seen
    rw [he] at h
    cases h
  · rw [hok seen] at h
    cases h
    rw [pageIds_of_json hstatus hbody]
    exact ⟨rfl, hok⟩

theorem Continues.read {resp : Response} (h : Continues resp) :
    ∃ token, ∀ seen, readPage seen resp = .ok (extend seen (pageIds resp), some token) := by
  obtain ⟨ids, token, hread⟩ := h.next
  exact ⟨token, (readPage_ok h.status hread).2⟩

/-! ## The walk -/

section walk

variable {accessToken startHistoryId : String} {pages : ℕ} {seen : List String}
  {pageToken : Option String}

/-- The loop against some responses. -/
def walkFrom (accessToken startHistoryId : String) (pages : ℕ) (seen : List String)
    (pageToken : Option String) (responses : List Response) :
    Except PyExc (List String) × List Response :=
  Prog.run serveResponses (listAddedFrom accessToken startHistoryId pages seen pageToken) responses

theorem walkFrom_nil (accessToken startHistoryId : String) (pages : ℕ) (seen : List String)
    (pageToken : Option String) :
    ∃ e, walkFrom accessToken startHistoryId pages seen pageToken [] = (.error e, []) := by
  cases pages with
  | zero => exact ⟨.workerLost, rfl⟩
  | succ pages => exact ⟨.httpError, rfl⟩

/-- One turn of the loop. -/
theorem walkFrom_cons (resp : Response) (rest : List Response) :
    walkFrom accessToken startHistoryId (pages + 1) seen pageToken (resp :: rest) =
      if resp.statusCode = 404 then (.ok [], rest)
      else if resp.statusCode ≠ 200 then
        (.error (.gmailSyncError ("history.list failed: HTTP " ++ toString resp.statusCode ++ " " ++
          String.ofList (resp.text.toList.take 200))), rest)
      else
        match readPage seen resp with
        | .error e => (.error e, rest)
        | .ok (ids, none) => (.ok ids, rest)
        | .ok (ids, some token) =>
            walkFrom accessToken startHistoryId pages ids (some token) rest := by
  rw [walkFrom, listAddedFrom, Prog.run_bind, Prog.run_perform]
  show (if resp.statusCode = 404 then Prog.ret [] else _ : Service (List String)).run
    serveResponses rest = _
  by_cases h404 : resp.statusCode = 404
  · rw [if_pos h404, if_pos h404]
    rfl
  · rw [if_neg h404, if_neg h404]
    by_cases h200 : resp.statusCode ≠ 200
    · rw [if_pos h200, if_pos h200]
      rfl
    · rw [if_neg h200, if_neg h200]
      show Prog.run serveResponses ((Prog.ofExcept (readPage seen resp)).bind _) rest = _
      cases readPage seen resp with
      | error e => rfl
      | ok page =>
          obtain ⟨ids, next⟩ := page
          cases next <;> rfl

/-- **What the walk has done when it returns**: it has gone from page to page, and met a 404, or
a page that names no next one. -/
theorem walkFrom_ok {responses unread : List Response} {ids : List String}
    (h : walkFrom accessToken startHistoryId pages seen pageToken responses = (.ok ids, unread)) :
    ∃ earlier last, responses = earlier ++ last :: unread ∧ (∀ page ∈ earlier, Continues page) ∧
      ((last.statusCode = 404 ∧ ids = []) ∨
        (last.statusCode = 200 ∧
          ids = extend seen ((earlier ++ [last]).flatMap pageIds))) := by
  induction responses generalizing pages seen pageToken with
  | nil =>
      obtain ⟨e, he⟩ := walkFrom_nil accessToken startHistoryId pages seen pageToken
      rw [he] at h
      cases h
  | cons resp rest ih =>
      cases pages with
      | zero => cases h
      | succ pages =>
          rw [walkFrom_cons] at h
          split at h
          · rename_i h404
            cases h
            exact ⟨[], resp, rfl, by simp, Or.inl ⟨h404, rfl⟩⟩
          · split at h
            · cases h
            · rename_i h404 h200
              have hstatus : resp.statusCode = 200 := not_not.1 h200
              split at h
              · cases h
              · rename_i ids' hread
                cases h
                obtain ⟨rfl, -⟩ := readPage_ok hstatus hread
                refine ⟨[], resp, rfl, by simp, Or.inr ⟨hstatus, ?_⟩⟩
                rw [List.nil_append, List.flatMap_singleton]
              · rename_i ids' token hread
                obtain ⟨rfl, hnext⟩ := readPage_ok hstatus hread
                obtain ⟨earlier, last, rfl, hearlier, hend⟩ := ih h
                have hcontinues : Continues resp := ⟨hstatus, _, token, hnext []⟩
                refine ⟨resp :: earlier, last, rfl, ?_, ?_⟩
                · exact List.forall_mem_cons.2 ⟨hcontinues, hearlier⟩
                · rw [List.cons_append, List.flatMap_cons, extend_append]
                  exact hend

/-- The walk follows the pages that name a next one. -/
theorem walkFrom_follow (accessToken startHistoryId : String) (pages : ℕ) (seen : List String)
    (pageToken : Option String) {earlier : List Response}
    (hearlier : ∀ page ∈ earlier, Continues page) (responses : List Response) :
    ∃ seen' pageToken',
      walkFrom accessToken startHistoryId (pages + earlier.length) seen pageToken
        (earlier ++ responses) =
      walkFrom accessToken startHistoryId pages seen' pageToken' responses := by
  induction earlier generalizing seen pageToken with
  | nil => exact ⟨_, _, rfl⟩
  | cons page earlier ih =>
      obtain ⟨hpage, hearlier⟩ := List.forall_mem_cons.1 hearlier
      obtain ⟨token, hread⟩ := hpage.read
      have hstatus := hpage.status
      rw [List.length_cons, ← Nat.add_assoc, List.cons_append, walkFrom_cons, if_neg (by omega),
        if_neg (not_not.2 hstatus), hread seen]
      exact ih _ _ hearlier

end walk

/-! ## What is lost -/

/-- What has been read of some responses. -/
theorem take_read (earlier : List Response) (last : Response) (unread : List Response) :
    (earlier ++ last :: unread).take ((earlier ++ last :: unread).length - unread.length) =
      earlier ++ [last] := by
  have hsplit : earlier ++ last :: unread = (earlier ++ [last]) ++ unread := by simp
  rw [hsplit]
  refine List.take_left' ?_
  have hlen : (earlier ++ [last] ++ unread).length = (earlier ++ [last]).length + unread.length :=
    List.length_append
  omega

/-- **History paging loses nothing unless it is broken off**: a 404 behind a page that carries an
id discards what has been collected. -/
theorem losesNothing_iff (accessToken startHistoryId : String) {responses : List Response}
    {pages : ℕ} (hpages : responses.length ≤ pages) :
    LosesNothing pages accessToken startHistoryId responses ↔ ¬ BrokenOff responses := by
  have hwalk : walkHistory pages accessToken startHistoryId responses =
      walkFrom accessToken startHistoryId pages [] none responses := rfl
  rw [LosesNothing, hwalk]
  constructor
  · rintro hloses ⟨earlier, resp, later, rfl, h404, hearlier, page, hpage, hids⟩
    rw [List.length_append, List.length_cons] at hpages
    obtain ⟨k, rfl⟩ : ∃ k, pages = k + 1 + earlier.length :=
      ⟨pages - (earlier.length + 1), by omega⟩
    obtain ⟨seen, pageToken, hfollow⟩ := walkFrom_follow accessToken startHistoryId (k + 1) [] none
      hearlier (resp :: later)
    rw [hfollow, walkFrom_cons, if_pos h404] at hloses
    obtain ⟨hcollected, -⟩ := hloses
    have hread : (earlier ++ resp :: later).take
        ((earlier ++ resp :: later).length - later.length) = earlier ++ [resp] :=
      take_read earlier resp later
    rw [hread] at hcollected
    obtain ⟨mid, hmid⟩ := List.exists_mem_of_ne_nil _ hids
    have hall : mid ∈ (earlier ++ [resp]).flatMap pageIds :=
      List.mem_flatMap.2 ⟨page, List.mem_append_left _ hpage, hmid⟩
    have hlost : mid ∈ ([] : List String) := (hcollected.complete mid).2 hall
    cases hlost
  · intro hwhole
    rcases hresult : walkFrom accessToken startHistoryId pages [] none responses with ⟨r, unread⟩
    cases r with
    | error e => trivial
    | ok ids =>
        obtain ⟨earlier, last, rfl, hearlier, hend⟩ := walkFrom_ok hresult
        show Collected ids _ ∧ _
        rw [take_read]
        rcases hend with ⟨h404, rfl⟩ | ⟨h200, rfl⟩
        · -- nothing has been collected before the 404
          have hnone : ∀ page ∈ earlier ++ [last], pageIds page = [] := by
            intro page hpage
            rcases List.mem_append.1 hpage with hpage | hpage
            · by_contra hids
              exact hwhole ⟨earlier, last, unread, rfl, h404, hearlier, page, hpage, hids⟩
            · rw [List.mem_singleton.1 hpage]
              exact pageIds_of_notFound h404
          rw [List.flatMap_eq_nil_iff.2 hnone]
          exact ⟨collected_extend [], fun _ => Or.inr hnone⟩
        · have hcollected := collected_extend ((earlier ++ [last]).flatMap pageIds)
          refine ⟨hcollected, fun hempty => Or.inr ?_⟩
          rw [hempty] at hcollected
          refine List.flatMap_eq_nil_iff.1 (List.eq_nil_iff_forall_not_mem.2 fun mid hmid => ?_)
          have hlost : mid ∈ ([] : List String) := (hcollected.complete mid).2 hmid
          cases hlost

/-- A first page with one message and a second page the server has forgotten. -/
def samplePages : List Response :=
  [⟨200, "", .ok (.obj [("history", .arr [.obj [("messagesAdded",
      .arr [.obj [("message", .obj [("id", .str "m1")])]])]]),
    ("nextPageToken", .str "p2")])⟩,
    ⟨404, "", .error .jsonDecodeError⟩]

theorem losesNothing_iff_sample :
    LosesNothing 2 "token" "7" samplePages ↔ ¬ BrokenOff samplePages :=
  losesNothing_iff "token" "7" (by decide)

/-- The id of the first page is discarded when the second one is a 404. -/
theorem not_losesNothing_of_second_404 : ¬ LosesNothing 2 "token" "7" samplePages := by
  rintro ⟨hcollected, -⟩
  have hlost : "m1" ∈ ([] : List String) := (hcollected.complete "m1").2 (by decide)
  cases hlost

end History

end SpendLens
