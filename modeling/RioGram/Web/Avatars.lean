import RioGram.Core.Processes
import RioGram.Core.Reachable
import RioGram.Js.Strings
import RioGram.Web.Bridge

/-!
# Avatars of the web

`WebAvatarCache` keeps the blob URLs of avatars by their files.  It reads a file through the bridge, which keeps the
URLs too and revokes them when the client is closed, or when a file is read again.  Reads and clients come in any order.

* `AvatarRun.forall_keeps_iff` — the runs in which no URL is revoked that was handed out, and only URLs are shown that
  are good.
-/

namespace RioGram.Web

open Js Reaching

/-- `file['id']`: a number, a text or something else. -/
inductive FileIdValue where
  | int (value : ℤ)
  | string (value : Str)
  | other
deriving DecidableEq

structure WebFile where
  id : FileIdValue
  isDownloadingCompleted : Option Bool := none
deriving DecidableEq

structure WebAvatarCache where
  urls : List (ℤ × ℕ) := []
  loading : List ℤ := []
deriving DecidableEq

namespace WebAvatarCache

def urlFor (c : WebAvatarCache) (fileId : ℤ) : Option ℕ :=
  (Keyed.lookup Prod.fst fileId c.urls).map Prod.snd

def readFileId : FileIdValue → Option ℤ
  | .int value => some value
  | .string value => tryParseInt value
  | .other => none

end WebAvatarCache

/-- Where a read is: its client is asked; it has come to a URL or to none; the cache has gone on with it. -/
inductive ReadStage where
  | sent (client : ℕ)
  | resolved (url : Option ℕ)
  | done
deriving DecidableEq

/-- A call of `readFileBlobUrl`, by the cache or not. -/
structure FileRead where
  fileId : ℤ
  forCache : Bool
  stage : ReadStage
deriving DecidableEq

/-- Clients are created and closed; files are read and the reads answered; the cache is asked for a file, hears of one,
or goes on with what it has read. -/
inductive AvatarEvent where
  | create
  | close
  | clearStorage
  | readFileBlobUrl (fileId : ℤ)
  | answered (read : ℕ) (hasData : Bool)
  | request (fileId : ℤ)
  | updateFile (file : Option WebFile)
  | loaded (read : ℕ)
deriving DecidableEq

structure AvatarRun where
  bridge : TdlibBridge := {}
  cache : WebAvatarCache := {}
  reads : List FileRead := []
deriving DecidableEq

def TdlibBridge.BlobRead.stage : TdlibBridge.BlobRead → ReadStage
  | .resolved url => .resolved url
  | .sent client => .sent client

namespace AvatarRun

variable (r : AvatarRun)

def readFileBlobUrl (fileId : ℤ) (forCache : Bool) : AvatarRun :=
  { r with reads := r.reads ++ [⟨fileId, forCache, (r.bridge.readFileBlobUrl fileId).stage⟩] }

def answered (i : ℕ) (hasData : Bool) : AvatarRun :=
  match r.reads[i]? with
  | some ⟨fileId, forCache, .sent client⟩ =>
      let after := r.bridge.readAnswered fileId client hasData
      { r with bridge := after.1, reads := r.reads.set i ⟨fileId, forCache, .resolved after.2⟩ }
  | _ => r

def request (fileId : ℤ) : AvatarRun :=
  if (r.cache.urlFor fileId).isSome || r.cache.loading.contains fileId then r
  else { r with cache := { r.cache with loading := fileId :: r.cache.loading } }.readFileBlobUrl fileId true

def handleUpdate (file : Option WebFile) : AvatarRun :=
  match file with
  | none => r
  | some file =>
      match WebAvatarCache.readFileId file.id with
      | none => r
      | some fileId => if file.isDownloadingCompleted.getD false then r.request fileId else r

/-- `_load` goes on. -/
def loaded (i : ℕ) : AvatarRun :=
  match r.reads[i]? with
  | some ⟨fileId, true, .resolved url⟩ =>
      { r with
        cache := {
          urls := match url with
            | some url => Keyed.without Prod.fst fileId r.cache.urls ++ [(fileId, url)]
            | none => r.cache.urls
          loading := r.cache.loading.erase fileId }
        reads := r.reads.set i ⟨fileId, true, .done⟩ }
  | _ => r

def step (r : AvatarRun) : AvatarEvent → AvatarRun
  | .create => { r with bridge := r.bridge.create }
  | .close => { r with bridge := r.bridge.close.1 }
  | .clearStorage => { r with bridge := r.bridge.clearStorage.1 }
  | .readFileBlobUrl fileId => r.readFileBlobUrl fileId false
  | .answered i hasData => r.answered i hasData
  | .request fileId => r.request fileId
  | .updateFile file => r.handleUpdate file
  | .loaded i => r.loaded i

/-- The URL is not revoked. -/
def IsLive (url : ℕ) : Prop := ∃ u, r.bridge.urls[url]? = some u ∧ u.revoked = false

/-- What the cache shows is not revoked, and is of a file of the client that is there. -/
def Shows : Prop :=
  ∀ fileId url, r.cache.urlFor fileId = some url →
    ∃ u, r.bridge.urls[url]? = some u ∧ u.revoked = false ∧ r.bridge.tdClient = some u.client

/-- A step that does not close the client revokes no URL; after it each file has at most one that is not revoked, and
what the cache shows is good.  Each URL was handed out as soon as it was there. -/
structure Keeps (e : AvatarEvent) : Prop where
  valid : e ≠ .close → e ≠ .clearStorage → ∀ url, r.IsLive url → (r.step e).IsLive url
  unique : ∀ (url url' : ℕ) (u u' : BlobUrl), (r.step e).bridge.urls[url]? = some u →
    (r.step e).bridge.urls[url']? = some u' → u.revoked = false → u'.revoked = false → u.fileId = u'.fileId → url = url'
  shown : (r.step e).Shows

/-- Clients are created and closed where the cache shows nothing; a file is not read again before it was answered; and
the cache goes on with what the client that is there has read. -/
def Plain : AvatarEvent → Prop
  | .create => r.cache.urls = []
  | .close => r.cache.urls = []
  | .clearStorage => r.cache.urls = []
  | .answered i hasData => hasData = true → ∀ fileId forCache client,
      r.reads[i]? = some ⟨fileId, forCache, .sent client⟩ → r.bridge.blobUrl fileId = none
  | .loaded i => ∀ fileId url, r.reads[i]? = some ⟨fileId, true, .resolved (some url)⟩ →
      ∃ u, r.bridge.urls[url]? = some u ∧ r.bridge.tdClient = some u.client
  | _ => True

/-! ### What a run keeps -/

/-- The URLs that the bridge keeps are those that are not revoked; clients and URLs are there where they are spoken of;
and what is revoked is of a client that was closed. -/
structure Inv (r : AvatarRun) : Prop where
  nodup : (r.bridge.blobUrlByFileId.map Prod.fst).Nodup
  kept : ∀ fileId url, (fileId, url) ∈ r.bridge.blobUrlByFileId →
    ∃ client, r.bridge.urls[url]? = some ⟨fileId, client, false⟩
  live : ∀ (url : ℕ) (u : BlobUrl), r.bridge.urls[url]? = some u → u.revoked = false →
    (u.fileId, url) ∈ r.bridge.blobUrlByFileId
  current : ∀ client ∈ r.bridge.tdClient, client < r.bridge.clients.length
  clients : ∀ u ∈ r.bridge.urls, u.client < r.bridge.clients.length
  sent : ∀ read ∈ r.reads, ∀ client, read.stage = .sent client → client < r.bridge.clients.length
  revoked : ∀ u ∈ r.bridge.urls, u.revoked = true → r.bridge.tdClient ≠ some u.client
  shown : r.Shows

variable {r}

lemma blobUrl_eq_some {fileId : ℤ} {url : ℕ} (h : r.bridge.blobUrl fileId = some url) :
    (fileId, url) ∈ r.bridge.blobUrlByFileId := by
  rcases Option.map_eq_some_iff.mp h with ⟨⟨fileId', url'⟩, hlookup, rfl⟩
  rcases Keyed.mem_of_lookup hlookup with ⟨hmem, rfl⟩
  exact hmem

lemma Inv.unique (h : r.Inv) (url url' : ℕ) (u u' : BlobUrl) (hu : r.bridge.urls[url]? = some u)
    (hu' : r.bridge.urls[url']? = some u') (hlive : u.revoked = false) (hlive' : u'.revoked = false)
    (hfile : u.fileId = u'.fileId) : url = url' := by
  have hmem := h.live url u hu hlive
  have hmem' := h.live url' u' hu' hlive'
  rw [hfile] at hmem
  exact congrArg Prod.snd (List.inj_on_of_nodup_map h.nodup hmem hmem' rfl)

/-- The files and the cache may be at other stages. -/
lemma Inv.reads (h : r.Inv) {loading : List ℤ} {reads : List FileRead}
    (hsent : ∀ read ∈ reads, ∀ client, read.stage = .sent client → client < r.bridge.clients.length) :
    Inv { r with cache := { r.cache with loading := loading }, reads := reads } :=
  ⟨h.nodup, h.kept, h.live, h.current, h.clients, hsent, h.revoked, h.shown⟩

lemma Inv.sent_append (h : r.Inv) (fileId : ℤ) (forCache : Bool) :
    ∀ read ∈ (r.readFileBlobUrl fileId forCache).reads, ∀ client, read.stage = .sent client →
      client < r.bridge.clients.length := by
  refine List.forall_mem_append.mpr ⟨h.sent, List.forall_mem_singleton.mpr fun client hclient => ?_⟩
  change TdlibBridge.BlobRead.stage (r.bridge.readFileBlobUrl fileId) = _ at hclient
  rw [TdlibBridge.readFileBlobUrl] at hclient
  cases hcurrent : r.bridge.tdClient with
  | none =>
      rw [hcurrent] at hclient
      exact nomatch hclient
  | some current =>
      rw [hcurrent] at hclient
      cases hurl : r.bridge.blobUrl fileId with
      | none =>
          simp only [hurl] at hclient
          rw [← ReadStage.sent.inj hclient]
          exact h.current current hcurrent
      | some url =>
          simp only [hurl] at hclient
          exact nomatch hclient

lemma sent_set {clients : ℕ} (h : ∀ read ∈ r.reads, ∀ client, read.stage = .sent client → client < clients) (i : ℕ)
    (read : FileRead) (hread : ∀ client, read.stage ≠ .sent client) :
    ∀ other ∈ r.reads.set i read, ∀ client, other.stage = .sent client → client < clients :=
  Interleaving.forall_mem_set h i fun client hclient => absurd hclient (hread client)

/-- Where the cache shows nothing, what it shows is good. -/
lemma shows_of_nil (h : r.cache.urls = []) : r.Shows := by
  intro fileId url hurl
  rw [WebAvatarCache.urlFor, h] at hurl
  exact nomatch hurl

/-- What the cache has it shows. -/
lemma exists_urlFor (h : r.cache.urls ≠ []) : ∃ fileId url, r.cache.urlFor fileId = some url := by
  rcases List.exists_mem_of_ne_nil _ h with ⟨⟨fileId, url⟩, hmem⟩
  cases hlookup : Keyed.lookup Prod.fst fileId r.cache.urls with
  | none =>
      have hnone := List.find?_eq_none.mp hlookup _ hmem
      exact absurd (beq_self_eq_true fileId) hnone
  | some entry => exact ⟨fileId, entry.2, by rw [WebAvatarCache.urlFor, hlookup]; rfl⟩

/-! ### Clients -/

lemma Inv.create (h : r.Inv) (hnil : r.cache.urls = []) : (r.step .create).Inv where
  nodup := h.nodup
  kept := h.kept
  live := h.live
  current client hclient := by
    change client < (r.bridge.clients ++ [TdwebState.start]).length
    rw [← Option.some_inj.mp hclient, List.length_append, List.length_singleton]
    exact Nat.lt_succ_self _
  clients u hu := by
    change u.client < (r.bridge.clients ++ [TdwebState.start]).length
    rw [List.length_append]
    exact Nat.lt_add_right _ (h.clients u hu)
  sent read hread client hclient := by
    change client < (r.bridge.clients ++ [TdwebState.start]).length
    rw [List.length_append]
    exact Nat.lt_add_right _ (h.sent read hread client hclient)
  revoked u hu _ heq := absurd (Option.some_inj.mp heq).symm (h.clients u hu).ne
  shown := shows_of_nil hnil

/-- All URLs are revoked, and no client is there. -/
lemma Inv.closed (h : r.Inv) {bridge : TdlibBridge} (hclosed : TdlibBridge.IsClosed r.bridge bridge)
    (hnil : r.cache.urls = []) : Inv { r with bridge := bridge } := by
  have hrevoked : ∀ (url : ℕ) u, bridge.urls[url]? = some u →
      u.revoked = true ∧ ∃ u' ∈ r.bridge.urls, u.client = u'.client := by
    intro url u hu
    rw [hclosed.urls] at hu
    rcases Option.map_eq_some_iff.mp hu with ⟨u', hu', rfl⟩
    split_ifs with hmem
    · exact ⟨rfl, u', List.mem_of_getElem? hu', rfl⟩
    · refine ⟨?_, u', List.mem_of_getElem? hu', rfl⟩
      by_contra hlive
      have hkept := h.live url u' hu' (Bool.not_eq_true _ |>.mp hlive)
      exact hmem (List.mem_map.mpr ⟨_, hkept, rfl⟩)
  refine ⟨?_, ?_, fun url u hu hlive => ?_, ?_, fun u hu => ?_, ?_, fun u hu _ heq => ?_, shows_of_nil hnil⟩
  · rw [hclosed.blobUrlByFileId]
    exact List.nodup_nil
  · rw [hclosed.blobUrlByFileId]
    exact fun _ _ hmem => absurd hmem List.not_mem_nil
  · exact absurd ((hrevoked url u hu).1.symm.trans hlive) Bool.true_eq_false.mp
  · rw [hclosed.tdClient]
    exact nofun
  · rcases List.mem_iff_getElem?.mp hu with ⟨url, hurl⟩
    rcases (hrevoked url u hurl).2 with ⟨u', hu', heq⟩
    rw [hclosed.clients, heq]
    exact h.clients u' hu'
  · rw [hclosed.clients]
    exact h.sent
  · exact nomatch hclosed.tdClient.symm.trans heq

/-! ### Reads -/

lemma Inv.request (h : r.Inv) (fileId : ℤ) : (r.request fileId).Inv := by
  rw [AvatarRun.request]
  split_ifs
  · exact h
  · exact h.reads (h.sent_append fileId true)

lemma Inv.handleUpdate (h : r.Inv) (file : Option WebFile) : (r.handleUpdate file).Inv := by
  cases file with
  | none => exact h
  | some file =>
      simp only [AvatarRun.handleUpdate]
      split
      · exact h
      · split_ifs
        · exact h.request _
        · exact h

/-- A URL is where it was when there is one more. -/
lemma getElem?_urls_append {urls : List BlobUrl} {url : ℕ} {u : BlobUrl} (h : urls[url]? = some u) (added : BlobUrl) :
    (urls ++ [added])[url]? = some u := by
  rcases List.getElem?_eq_some_iff.mp h with ⟨hlt, -⟩
  exact (List.getElem?_append_left hlt).trans h

lemma Inv.notMem_of_none (h : r.Inv) {fileId : ℤ} (hnone : r.bridge.blobUrl fileId = none) :
    fileId ∉ r.bridge.blobUrlByFileId.map Prod.fst := by
  intro hmem
  rcases List.mem_map.mp hmem with ⟨entry, hentry, rfl⟩
  have hlookup := Keyed.lookup_of_mem h.nodup hentry
  exact nomatch (Option.map_eq_none_iff.mp hnone).symm.trans hlookup

/-- The first URL of a file. -/
lemma Inv.added (h : r.Inv) {fileId : ℤ} {client : ℕ} {reads : List FileRead}
    (hnone : r.bridge.blobUrl fileId = none) (hclient : client < r.bridge.clients.length)
    (hsent : ∀ read ∈ reads, ∀ client, read.stage = .sent client → client < r.bridge.clients.length) :
    Inv { r with
      bridge := { r.bridge with
        urls := r.bridge.urls ++ [⟨fileId, client, false⟩]
        blobUrlByFileId := r.bridge.blobUrlByFileId ++ [(fileId, r.bridge.urls.length)] }
      reads := reads } := by
  refine ⟨?_, fun fileId' url hmem => ?_, fun url u hu hlive => ?_, h.current, ?_, hsent, ?_,
    fun fileId' url hurl => ?_⟩
  · change ((r.bridge.blobUrlByFileId ++ [(fileId, r.bridge.urls.length)]).map Prod.fst).Nodup
    rw [List.map_append, List.map_singleton, List.nodup_append]
    refine ⟨h.nodup, List.nodup_singleton _, fun key hkey key' hkey' => ?_⟩
    rw [List.mem_singleton.mp hkey']
    rintro rfl
    exact h.notMem_of_none hnone hkey
  · rcases List.mem_append.mp hmem with hbefore | hnew
    · rcases h.kept fileId' url hbefore with ⟨c, hc⟩
      exact ⟨c, getElem?_urls_append hc _⟩
    · cases List.mem_singleton.mp hnew
      exact ⟨client, List.getElem?_concat_length⟩
  · change (r.bridge.urls ++ [(⟨fileId, client, false⟩ : BlobUrl)])[url]? = some u at hu
    rw [List.getElem?_append] at hu
    split_ifs at hu with hlt
    · exact List.mem_append_left _ (h.live url u hu hlive)
    · rw [List.getElem?_singleton] at hu
      split_ifs at hu with hzero
      rw [← Option.some_inj.mp hu]
      refine List.mem_append_right _ (List.mem_singleton.mpr (Prod.ext rfl ?_))
      change url = r.bridge.urls.length
      omega
  · exact List.forall_mem_append.mpr ⟨h.clients, List.forall_mem_singleton.mpr hclient⟩
  · exact List.forall_mem_append.mpr ⟨h.revoked, List.forall_mem_singleton.mpr fun hrevoked => nomatch hrevoked⟩
  · rcases h.shown fileId' url hurl with ⟨u, hu, hgood⟩
    exact ⟨u, getElem?_urls_append hu _, hgood⟩

lemma Inv.answered (h : r.Inv) {i : ℕ} {hasData : Bool} (hmove : r.Plain (.answered i hasData)) :
    (r.answered i hasData).Inv := by
  rw [AvatarRun.answered]
  split
  case h_2 => exact h
  case h_1 fileId forCache client hi =>
    have hresolved : ∀ (url : Option ℕ) c, ReadStage.resolved url ≠ .sent c := fun _ _ heq => nomatch heq
    cases hasData with
    | false => exact h.reads (sent_set h.sent i _ (hresolved none))
    | true =>
        have hnone := hmove rfl fileId forCache client hi
        rw [TdlibBridge.readAnswered_of_none hnone]
        exact h.added hnone (h.sent _ (List.mem_of_getElem? hi) client rfl) (sent_set h.sent i _ (hresolved _))

/-- A URL is put into the cache. -/
lemma urlFor_put (c : WebAvatarCache) (fileId : ℤ) (url : ℕ) (loading : List ℤ) (fileId' : ℤ) :
    WebAvatarCache.urlFor ⟨Keyed.without Prod.fst fileId c.urls ++ [(fileId, url)], loading⟩ fileId' =
      if fileId' = fileId then some url else c.urlFor fileId' := by
  rw [WebAvatarCache.urlFor, Keyed.lookup_append, Keyed.lookup_without, Keyed.lookup_cons]
  split_ifs with hfile hsame hsame
  · rfl
  · exact absurd hfile.symm hsame
  · exact absurd hsame.symm hfile
  · exact congrArg _ Option.or_none

lemma Inv.loaded (h : r.Inv) {i : ℕ} (hmove : r.Plain (.loaded i)) : (r.loaded i).Inv := by
  rw [AvatarRun.loaded]
  split
  case h_2 => exact h
  case h_1 fileId url hi =>
    have hsent := sent_set h.sent i ⟨fileId, true, .done⟩ nofun
    cases url with
    | none => exact h.reads hsent
    | some url =>
        rcases hmove fileId url hi with ⟨u, hu, hcurrent⟩
        have hlive : u.revoked = false := by
          by_contra hrevoked
          exact h.revoked u (List.mem_of_getElem? hu) (Bool.not_eq_false _ |>.mp hrevoked) hcurrent
        refine ⟨h.nodup, h.kept, h.live, h.current, h.clients, hsent, h.revoked, fun fileId' url' hurl => ?_⟩
        rw [urlFor_put] at hurl
        split_ifs at hurl with hfile
        · rw [← Option.some_inj.mp hurl]
          exact ⟨u, hu, hlive, hcurrent⟩
        · exact h.shown fileId' url' hurl

lemma inv_step (h : r.Inv) {e : AvatarEvent} (hmove : r.Plain e) : (r.step e).Inv := by
  cases e with
  | create => exact h.create hmove
  | close => exact h.closed (TdlibBridge.isClosed_close _) hmove
  | clearStorage => exact h.closed (TdlibBridge.isClosed_clearStorage _) hmove
  | readFileBlobUrl fileId => exact h.reads (h.sent_append fileId false)
  | answered i hasData => exact h.answered hmove
  | request fileId => exact h.request fileId
  | updateFile file => exact h.handleUpdate file
  | loaded i => exact h.loaded hmove

/-! ### When a step keeps to it -/

lemma bridge_request (fileId : ℤ) : (r.request fileId).bridge = r.bridge := by
  rw [AvatarRun.request]
  split_ifs <;> rfl

lemma bridge_handleUpdate (file : Option WebFile) : (r.handleUpdate file).bridge = r.bridge := by
  cases file with
  | none => rfl
  | some file =>
      simp only [AvatarRun.handleUpdate]
      split
      · rfl
      · split_ifs
        · exact bridge_request _
        · rfl

lemma bridge_loaded (i : ℕ) : (r.loaded i).bridge = r.bridge := by
  rw [AvatarRun.loaded]
  split <;> rfl

/-- A step that is plain revokes nothing, if it does not close the client. -/
lemma valid_of_plain {e : AvatarEvent} (hmove : r.Plain e) (hclose : e ≠ .close) (hclear : e ≠ .clearStorage)
    (url : ℕ) (hlive : r.IsLive url) : (r.step e).IsLive url := by
  have hsame : ∀ r' : AvatarRun, r'.bridge = r.bridge → r'.IsLive url := by
    intro r' heq
    rwa [IsLive, heq]
  cases e with
  | create => exact hlive
  | close => exact absurd rfl hclose
  | clearStorage => exact absurd rfl hclear
  | readFileBlobUrl fileId => exact hlive
  | answered i hasData =>
      rw [step, AvatarRun.answered]
      split
      case h_2 => exact hlive
      case h_1 fileId forCache client hi =>
        cases hasData with
        | false => exact hlive
        | true =>
            rw [TdlibBridge.readAnswered_of_none (hmove rfl fileId forCache client hi)]
            rcases hlive with ⟨u, hu, hrevoked⟩
            exact ⟨u, getElem?_urls_append hu _, hrevoked⟩
  | request fileId => exact hsame _ (bridge_request fileId)
  | updateFile file => exact hsame _ (bridge_handleUpdate file)
  | loaded i => exact hsame _ (bridge_loaded i)

/-- Where no client is there, or only a new one, a cache that shows something shows what is not good. -/
lemma urls_nil_of_shows {r' : AvatarRun} (h : r'.Shows)
    (hnone : ∀ u ∈ r'.bridge.urls, r'.bridge.tdClient ≠ some u.client) : r'.cache.urls = [] := by
  by_contra hne
  rcases exists_urlFor hne with ⟨fileId, url, hurl⟩
  rcases h fileId url hurl with ⟨u, hu, -, hcurrent⟩
  exact hnone u (List.mem_of_getElem? hu) hcurrent

lemma plain_of_keeps (h : r.Inv) {e : AvatarEvent} (hkeeps : r.Keeps e) : r.Plain e := by
  cases e with
  | create =>
      have hnil : (r.step .create).cache.urls = [] := urls_nil_of_shows hkeeps.shown fun u hu heq =>
        absurd (Option.some_inj.mp heq).symm (h.clients u hu).ne
      exact hnil
  | close =>
      have hnone : r.bridge.close.1.tdClient = none := (TdlibBridge.isClosed_close _).tdClient
      have hnil : (r.step .close).cache.urls = [] := urls_nil_of_shows hkeeps.shown fun u _ heq =>
        nomatch hnone.symm.trans heq
      exact hnil
  | clearStorage =>
      have hnone : r.bridge.clearStorage.1.tdClient = none := (TdlibBridge.isClosed_clearStorage _).tdClient
      have hnil : (r.step .clearStorage).cache.urls = [] := urls_nil_of_shows hkeeps.shown fun u _ heq =>
        nomatch hnone.symm.trans heq
      exact hnil
  | answered i hasData =>
      rintro rfl fileId forCache client hi
      by_contra hsome
      rcases Option.ne_none_iff_exists'.mp hsome with ⟨previous, hprevious⟩
      rcases h.kept fileId previous (blobUrl_eq_some hprevious) with ⟨c, hc⟩
      rcases hkeeps.valid nofun nofun previous ⟨_, hc, rfl⟩ with ⟨u, hu, hlive⟩
      rw [step, AvatarRun.answered, hi] at hu
      change (r.bridge.readAnswered fileId client true).1.urls[previous]? = some u at hu
      rw [TdlibBridge.readAnswered_of_some hprevious hc] at hu
      rw [← Option.some_inj.mp hu] at hlive
      exact nomatch hlive
  | loaded i =>
      intro fileId url hi
      have hurl : (r.loaded i).cache.urlFor fileId = some url := by
        rw [AvatarRun.loaded, hi]
        exact (urlFor_put _ _ _ _ _).trans (if_pos rfl)
      rcases hkeeps.shown fileId url hurl with ⟨u, hu, -, hcurrent⟩
      change (r.loaded i).bridge.urls[url]? = some u at hu
      change (r.loaded i).bridge.tdClient = some u.client at hcurrent
      rw [bridge_loaded] at hu hcurrent
      exact ⟨u, hu, hcurrent⟩
  | _ => trivial

/-- **When a step keeps the URLs.** -/
theorem keeps_iff (h : r.Inv) (e : AvatarEvent) : r.Keeps e ↔ r.Plain e := by
  refine ⟨plain_of_keeps h, fun hmove => ?_⟩
  have hnext := inv_step h hmove
  exact ⟨valid_of_plain hmove, hnext.unique, hnext.shown⟩

lemma inv_start : Inv {} :=
  ⟨List.nodup_nil, fun _ _ hmem => absurd hmem List.not_mem_nil, fun url u hu => (by
    rw [List.getElem?_nil] at hu
    exact nomatch hu), nofun, List.forall_mem_nil _, List.forall_mem_nil _, List.forall_mem_nil _, shows_of_nil rfl⟩

/-- **When a run keeps the URLs**: exactly if all its steps are plain. -/
theorem forall_keeps_iff (events : List AvatarEvent) : Meets step Keeps {} events ↔ Meets step Plain {} events :=
  meets_iff_meets (I := Inv) (fun _ e h => keeps_iff h e)
    (fun _ _ h hkeeps => inv_step h (plain_of_keeps h hkeeps)) inv_start events

/-- A file is read twice at the same time: the URL that the first call has come to is revoked. -/
theorem second_read_revokes :
    let events : List AvatarEvent := [.create, .readFileBlobUrl 7, .readFileBlobUrl 7, .answered 0 true,
      .answered 1 true]
    (events.foldl step {}).reads = [⟨7, false, .resolved (some 0)⟩, ⟨7, false, .resolved (some 1)⟩] ∧
      (events.foldl step {}).bridge.urls = [⟨7, 0, true⟩, ⟨7, 0, false⟩] ∧ ¬Meets step Keeps {} events := by
  intro events
  refine ⟨by decide +kernel, by decide +kernel, ?_⟩
  rw [forall_keeps_iff]
  rintro ⟨-, -, -, -, hanswered, -⟩
  have hnone := hanswered rfl 7 false 0 (by decide +kernel)
  exact absurd hnone (by decide +kernel)

/-- A client is closed while a file is read, and its answer comes late: the next client has a file with the same number,
and the avatar that is shown is the one of the client before. -/
theorem avatar_of_closed_client :
    let events : List AvatarEvent := [.create, .readFileBlobUrl 7, .close, .create, .answered 0 true, .request 7,
      .loaded 1]
    (events.foldl step {}).cache.urlFor 7 = some 0 ∧ (events.foldl step {}).bridge.tdClient = some 1 ∧
      (events.foldl step {}).bridge.urls = [⟨7, 0, false⟩] ∧ ¬Meets step Keeps {} events := by
  intro events
  refine ⟨by decide, by decide, by decide, ?_⟩
  rw [forall_keeps_iff]
  rintro ⟨-, -, -, -, -, -, hloaded, -⟩
  rcases hloaded 7 0 (by decide) with ⟨u, hu, hcurrent⟩
  have hurl : (([.create, .readFileBlobUrl 7, .close, .create, .answered 0 true, .request 7] :
      List AvatarEvent).foldl step {}).bridge.urls[0]? = some ⟨7, 0, false⟩ := by
    decide
  rw [← Option.some_inj.mp (hurl.symm.trans hu)] at hcurrent
  exact absurd hcurrent (by decide)

end AvatarRun

end RioGram.Web
