import RioGram.Core.Merging
import RioGram.Core.Reachable
import RioGram.Search.GlobalLoading

/-!
# The results of a global search

The answers to the requests of a global search may come in any order.  `resultsAfter` are the results when they
have come in one, and `Answered` says what they are after some of them.

* `results_complete_iff` says when the results are the chats that TDLib has found, without those that are reported
  as sponsored if advertisements are blocked, and the same for every order; and when late answers bring nothing
  after the search is cleared.
* `results_incomplete` are answers for which it is not so.
-/

namespace RioGram.Search

open Chats Reaching TdlibSearchParser

/-- What a global search shows. -/
@[ext]
structure GlobalResults where
  chatIds : List ℤ := []
  publicChatIds : List ℤ := []
  messages : List SearchMessageHit := []
  userHit : Option SearchUserHit := none

def GlobalSearch.results (search : GlobalSearch) : GlobalResults where
  chatIds := search.globalChatIds
  publicChatIds := search.publicChatIds
  messages := search.globalMessages
  userHit := search.globalUserHit

/-- What TDLib finds for the requests of a search; a request for which there is nothing is answered by an error. -/
structure GlobalReplies where
  chats : Option (List ℤ) := none
  messages : Option (List FoundMessage × String) := none
  publicChatsChannel : Option (List ℤ) := none
  publicChatsBot : Option (List ℤ) := none
  sponsoredChats : Option (List ℤ) := none
  publicChat : Option (ℤ × String) := none
  userPhone : Option SearchUserHit := none
  userToken : Option SearchUserHit := none

namespace GlobalReplies

variable (replies : GlobalReplies)

@[grind =]
def reply (requestId : ℕ) : GlobalTarget → Option SearchUpdate
  | .chats => replies.chats.map (.chats (some (.global .chats requestId)) ·)
  | .messages => replies.messages.map fun found =>
      .foundMessages (some (.global .messages requestId)) found.1 found.2
  | .publicChatsChannel => replies.publicChatsChannel.map (.chats (some (.global .publicChatsChannel requestId)) ·)
  | .publicChatsBot => replies.publicChatsBot.map (.chats (some (.global .publicChatsBot requestId)) ·)
  | .sponsoredChats => replies.sponsoredChats.map (.sponsoredChats (some (.global .sponsoredChats requestId)) ·)
  | .publicChat => replies.publicChat.map fun chat => .chat (some (.global .publicChat requestId)) chat.1 chat.2
  | .userPhone => replies.userPhone.map (.user (some (.global .userPhone requestId)) ·)
  | .userToken => replies.userToken.map (.user (some (.global .userToken requestId)) ·)
  | .messagesMore => none

/-- The answer to a request. -/
def update (requestId : ℕ) (target : GlobalTarget) : SearchUpdate :=
  (replies.reply requestId target).getD (.error (some (.global target requestId)) none)

/-- The chats that TDLib has found for a request. -/
@[grind =]
def foundIds : GlobalTarget → List ℤ
  | .chats => replies.chats.getD []
  | .publicChatsChannel => replies.publicChatsChannel.getD []
  | .publicChatsBot => replies.publicChatsBot.getD []
  | .publicChat => (replies.publicChat.map (·.1)).toList
  | _ => []

/-- The chats that are reported as sponsored, if that matters. -/
def blockedIds (shouldBlockAds : Bool) : List ℤ := if shouldBlockAds then replies.sponsoredChats.getD [] else []

/-! What of the answers is read. -/

@[grind =]
def readChats : GlobalTarget → Option (List ℤ)
  | .chats => replies.chats.map parseChatIds
  | _ => none

@[grind =]
def readPublicChats : GlobalTarget → List ℤ
  | .publicChatsChannel => parseChatIds (replies.publicChatsChannel.getD [])
  | .publicChatsBot => parseChatIds (replies.publicChatsBot.getD [])
  | .publicChat => (replies.publicChat.map (·.1)).toList
  | _ => []

def readMessages : GlobalTarget → Option (List SearchMessageHit)
  | .messages => replies.messages.map fun found => parseFoundMessages found.1
  | _ => none

def readTitle : GlobalTarget → Option (ℤ × String)
  | .publicChat => replies.publicChat
  | _ => none

def readUser : GlobalTarget → Option SearchUserHit
  | .userPhone => replies.userPhone
  | .userToken => replies.userToken
  | _ => none

end GlobalReplies

namespace SearchManager

variable (P : Platform) (tryParse : String → Option LinkUri) (s : SearchManager) (replies : GlobalReplies)

/-- The search is performed and answered in some order. -/
def answeredIn (order : List GlobalTarget) : SearchManager :=
  order.foldl (fun m target => m.handleUpdate (replies.update (s.global.globalRequestId + 1) target))
    (s.performGlobalSearch P tryParse)

def resultsAfter (order : List GlobalTarget) : GlobalResults := (s.answeredIn P tryParse replies order).global.results

/-- The results are what TDLib has found without what is blocked, and the same for every order of the answers. -/
structure Complete : Prop where
  complete : ∀ order, order.Perm (s.searchTargets P tryParse).targets → ∀ chatId,
    (chatId ∈ (s.resultsAfter P tryParse replies order).chatIds ∨
        chatId ∈ (s.resultsAfter P tryParse replies order).publicChatIds) ↔
      (∃ target ∈ (s.searchTargets P tryParse).targets, chatId ∈ replies.foundIds target) ∧
        chatId ∉ replies.blockedIds s.shouldBlockAds
  same : ∀ order order', order.Perm (s.searchTargets P tryParse).targets →
    order'.Perm (s.searchTargets P tryParse).targets →
      s.resultsAfter P tryParse replies order = s.resultsAfter P tryParse replies order'

/-- Just the chats that are to be shown have positive ids or are the chat of the username that is searched for;
of any two answers with public chats one begins the other; and the phone number and the token are not those of
different users. -/
structure Unambiguous : Prop where
  signs : ∀ target ∈ (s.searchTargets P tryParse).targets, ∀ chatId ∈ replies.foundIds target,
    (0 < chatId ∨ .publicChat ∈ (s.searchTargets P tryParse).targets ∧ chatId ∈ replies.foundIds .publicChat) ↔
      chatId ∉ replies.blockedIds s.shouldBlockAds
  chain : Merging.Chain replies.readPublicChats (s.searchTargets P tryParse).targets
  user : ∀ target ∈ (s.searchTargets P tryParse).targets, ∀ target' ∈ (s.searchTargets P tryParse).targets,
    ∀ hit hit', replies.readUser target = some hit → replies.readUser target' = some hit' → hit = hit'

end SearchManager

/-! ## After some of the answers -/

section Answered

variable {P : Platform} {tryParse : String → Option LinkUri} {s m : SearchManager} {replies : GlobalReplies}

/-- The titles with one more. -/
def retitled (titles : ℤ → Option String) : Option (ℤ × String) → ℤ → Option String
  | none => titles
  | some (chatId, title) => fun i => if i = chatId then some title else titles i

/-- Hits with the titles of their chats. -/
def entitled (titles : ℤ → Option String) (hits : List SearchMessageHit) : List SearchMessageHit :=
  hits.map fun hit => { hit with chatTitle := titles hit.chatId }

/-- What the manager has after the answers to some requests, none of which a sponsored chat matters for. -/
structure Answered (s : SearchManager) (replies : GlobalReplies) (done : List GlobalTarget) (m : SearchManager) :
    Prop where
  requestId : m.global.globalRequestId = s.global.globalRequestId + 1
  shouldBlockAds : m.shouldBlockAds = s.shouldBlockAds
  sponsored : ∀ chatId ∈ m.global.sponsoredSearchChatIds,
    .sponsoredChats ∈ done ∧ chatId ∈ replies.sponsoredChats.getD []
  titles : m.chatTitles = retitled s.chatTitles (Merging.last replies.readTitle done)
  chatIds : m.global.globalChatIds = (Merging.last replies.readChats done).getD []
  publicChatIds : m.global.publicChatIds = Merging.merged replies.readPublicChats done
  messages : m.global.globalMessages =
    entitled m.chatTitles ((Merging.last replies.readMessages done).getD [])
  userHit : m.global.globalUserHit = Merging.last replies.readUser done

/-- The chats that have been read are not blocked, or it is not known yet. -/
def Unblocked (s : SearchManager) (replies : GlobalReplies) (done : List GlobalTarget) : Prop :=
  .sponsoredChats ∉ done ∨ ∀ target ∈ done, ∀ chatId,
    chatId ∈ (replies.readChats target).getD [] ∨ chatId ∈ replies.readPublicChats target →
      chatId ∉ replies.blockedIds s.shouldBlockAds

lemma entitled_retitled (titles : ℤ → Option String) (chatId : ℤ) (title : String) (hits : List SearchMessageHit) :
    (entitled titles hits).map (fun hit => if hit.chatId = chatId then { hit with chatTitle := some title } else hit) =
      entitled (retitled titles (some (chatId, title))) hits := by
  rw [entitled, entitled, List.map_map]
  refine List.map_congr_left fun hit _ => ?_
  simp only [Function.comp_apply, retitled]
  split_ifs <;> rfl

lemma retitled_retitled (titles : ℤ → Option String) (chat : Option (ℤ × String)) :
    retitled (retitled titles chat) chat = retitled titles chat := by
  rcases chat with _ | ⟨chatId, title⟩
  · rfl
  · funext i
    simp only [retitled]
    split_ifs <;> rfl

/-- Only one answer has a title. -/
lemma eq_publicChat_of_readTitle {target : GlobalTarget} {chat : ℤ × String}
    (h : replies.readTitle target = some chat) : replies.publicChat = some chat := by
  cases target with
  | publicChat => exact h
  | _ => cases h

variable {done : List GlobalTarget} {target : GlobalTarget}

/-- One answer more. -/
lemma Answered.next (h : Answered s replies done m) {m' : SearchManager}
    (hid : m'.global.globalRequestId = m.global.globalRequestId) (hads : m'.shouldBlockAds = m.shouldBlockAds)
    (hsponsored : ∀ chatId ∈ m'.global.sponsoredSearchChatIds, chatId ∈ m.global.sponsoredSearchChatIds ∨
      target = .sponsoredChats ∧ chatId ∈ replies.sponsoredChats.getD [])
    (htitles : m'.chatTitles = retitled m.chatTitles (replies.readTitle target))
    (hchatIds : m'.global.globalChatIds = (replies.readChats target).getD m.global.globalChatIds)
    (hpublic : m'.global.publicChatIds = (m.global.publicChatIds ++ replies.readPublicChats target).eraseDups)
    (hmessages : m'.global.globalMessages = entitled m'.chatTitles
      ((replies.readMessages target).getD ((Merging.last replies.readMessages done).getD [])))
    (huser : m'.global.globalUserHit = (replies.readUser target).or m.global.globalUserHit) :
    Answered s replies (done ++ [target]) m' where
  requestId := hid.trans h.requestId
  shouldBlockAds := hads.trans h.shouldBlockAds
  sponsored chatId hmem := by
    rcases hsponsored chatId hmem with hold | ⟨rfl, hnew⟩
    · exact ⟨List.mem_append_left _ (h.sponsored chatId hold).1, (h.sponsored chatId hold).2⟩
    · exact ⟨List.mem_append_right _ List.mem_cons_self, hnew⟩
  titles := by
    rw [htitles, h.titles, Merging.last_concat]
    cases htitle : replies.readTitle target with
    | none => rfl
    | some chat =>
        cases hlast : Merging.last replies.readTitle done with
        | none => rfl
        | some chat' =>
            rcases Merging.exists_of_last hlast with ⟨target', -, hbefore⟩
            have hsame : chat' = chat := Option.some.inj
              ((eq_publicChat_of_readTitle hbefore).symm.trans (eq_publicChat_of_readTitle htitle))
            rw [hsame]
            exact retitled_retitled s.chatTitles (some chat)
  chatIds := by
    rw [hchatIds, h.chatIds, Merging.last_concat]
    cases replies.readChats target <;> rfl
  publicChatIds := by rw [hpublic, h.publicChatIds, Merging.merged_concat]
  messages := by
    rw [hmessages, Merging.last_concat]
    cases replies.readMessages target <;> rfl
  userHit := by rw [huser, h.userHit, Merging.last_concat]

/-- There are no repetitions. -/
lemma Answered.public_same (h : Answered s replies done m) :
    m.global.publicChatIds = (m.global.publicChatIds ++ []).eraseDups := by
  have hnodup : m.global.publicChatIds.Nodup := by
    rw [h.publicChatIds]
    exact Merging.nodup_eraseDups _
  rw [List.append_nil, Merging.eraseDups_of_nodup hnodup]

/-- An answer that brings nothing. -/
lemma Answered.nothing (h : Answered s replies done m) {m' : SearchManager}
    (hid : m'.global.globalRequestId = m.global.globalRequestId) (hads : m'.shouldBlockAds = m.shouldBlockAds)
    (hsponsored : ∀ chatId ∈ m'.global.sponsoredSearchChatIds, chatId ∈ m.global.sponsoredSearchChatIds ∨
      target = .sponsoredChats ∧ chatId ∈ replies.sponsoredChats.getD [])
    (htitles : m'.chatTitles = m.chatTitles) (hresults : m'.global.results = m.global.results)
    (hchats : replies.readChats target = none) (hpublic : replies.readPublicChats target = [])
    (hmessages : replies.readMessages target = none) (htitle : replies.readTitle target = none)
    (huser : replies.readUser target = none) : Answered s replies (done ++ [target]) m' := by
  refine h.next hid hads hsponsored ?_ ?_ ?_ ?_ ?_
  · rw [htitles, htitle]
    rfl
  · rw [hchats]
    exact congrArg GlobalResults.chatIds hresults
  · rw [hpublic, ← h.public_same]
    exact congrArg GlobalResults.publicChatIds hresults
  · rw [hmessages, htitles]
    exact (congrArg GlobalResults.messages hresults).trans h.messages
  · rw [huser]
    exact congrArg GlobalResults.userHit hresults

lemma handleError_results (m : SearchManager) (target : GlobalTarget) (requestId : ℕ) (message : Option String) :
    (m.handleError (.global target requestId) message).global.results = m.global.results ∧
      (m.handleError (.global target requestId) message).chatTitles = m.chatTitles ∧
      (m.handleError (.global target requestId) message).shouldBlockAds = m.shouldBlockAds ∧
      (m.handleError (.global target requestId) message).global.globalRequestId = m.global.globalRequestId ∧
      (m.handleError (.global target requestId) message).global.sponsoredSearchChatIds =
        m.global.sponsoredSearchChatIds := by
  simp only [SearchManager.handleError]
  split_ifs <;> exact ⟨rfl, rfl, rfl, rfl, rfl⟩

/-- A request for which there is nothing brings nothing. -/
lemma Answered.error (h : Answered s replies done m) {requestId : ℕ} (hreply : replies.reply requestId target = none) :
    Answered s replies (done ++ [target]) (m.handleUpdate (replies.update requestId target)) := by
  have hupdate : replies.update requestId target = .error (some (.global target requestId)) none := by
    rw [GlobalReplies.update, hreply]
    rfl
  rw [hupdate]
  rcases handleError_results m target requestId none with
    ⟨hresults, htitles, hads, hid, hsponsored⟩
  have hreads : replies.readChats target = none ∧ replies.readPublicChats target = [] ∧
      replies.readMessages target = none ∧ replies.readTitle target = none ∧ replies.readUser target = none := by
    cases target <;>
      simp [GlobalReplies.reply, GlobalReplies.readChats, GlobalReplies.readPublicChats, GlobalReplies.readMessages,
        GlobalReplies.readTitle, GlobalReplies.readUser, parseChatIds] at hreply ⊢ <;>
      simp [hreply]
  exact h.nothing hid hads (fun chatId hmem => .inl (hsponsored ▸ hmem)) htitles hresults hreads.1 hreads.2.1
    hreads.2.2.1 hreads.2.2.2.1 hreads.2.2.2.2

/-- What is not blocked is not filtered. -/
lemma filterSearchChatIds_of_unblocked {chatIds : List ℤ}
    (h : m.shouldBlockAds → ∀ chatId ∈ chatIds, chatId ∉ m.global.sponsoredSearchChatIds) :
    m.filterSearchChatIds chatIds = chatIds := by
  rw [SearchManager.filterSearchChatIds]
  split_ifs with hads
  · rw [List.filter_eq_self]
    intro chatId hmem
    have hnot := h hads chatId hmem
    simp [hnot]
  · rfl

lemma Unblocked.of_concat (h : Unblocked s replies (done ++ [target])) : Unblocked s replies done := by
  rcases h with hnot | hnot
  · exact .inl fun hmem => hnot (List.mem_append_left _ hmem)
  · exact .inr fun target' hmem => hnot target' (List.mem_append_left _ hmem)

/-- What is read is not filtered. -/
lemma Answered.unfiltered (h : Answered s replies done m) (hunblocked : Unblocked s replies (done ++ [target]))
    {chatIds : List ℤ} (hread : ∀ chatId ∈ chatIds, ∃ target' ∈ done ++ [target],
      chatId ∈ (replies.readChats target').getD [] ∨ chatId ∈ replies.readPublicChats target') :
    m.filterSearchChatIds chatIds = chatIds := by
  refine filterSearchChatIds_of_unblocked fun hads chatId hmem hsponsored => ?_
  rcases h.sponsored chatId hsponsored with ⟨hdone, hreported⟩
  rcases hunblocked with hnot | hnot
  · exact hnot (List.mem_append_left _ hdone)
  · rcases hread chatId hmem with ⟨target', htarget, hreads⟩
    refine hnot target' htarget chatId hreads ?_
    rw [GlobalReplies.blockedIds, ← h.shouldBlockAds, if_pos hads]
    exact hreported

/-- The public chats that there are and those that come are not filtered. -/
lemma Answered.unfiltered_public (h : Answered s replies done m)
    (hunblocked : Unblocked s replies (done ++ [target])) :
    m.filterSearchChatIds (m.global.publicChatIds ++ replies.readPublicChats target).eraseDups =
      (m.global.publicChatIds ++ replies.readPublicChats target).eraseDups := by
  refine h.unfiltered hunblocked fun chatId hmem => ?_
  rw [List.mem_eraseDups, h.publicChatIds, List.mem_append, Merging.mem_merged] at hmem
  rcases hmem with ⟨target', htarget, hread⟩ | hread
  · exact ⟨target', List.mem_append_left _ htarget, .inr hread⟩
  · exact ⟨target, List.mem_append_right _ List.mem_cons_self, .inr hread⟩

/-! ### One answer of each kind -/

lemma Answered.chats (h : Answered s replies done m) (hunblocked : Unblocked s replies (done ++ [.chats]))
    {ids : List ℤ} (hids : replies.chats = some ids) :
    Answered s replies (done ++ [.chats]) (m.handleChats (.global .chats (s.global.globalRequestId + 1)) ids) := by
  have hfilter : m.filterSearchChatIds (parseChatIds ids) = parseChatIds ids := by
    refine h.unfiltered hunblocked fun chatId hmem => ⟨.chats, List.mem_append_right _ List.mem_cons_self, .inl ?_⟩
    simp only [GlobalReplies.readChats, hids]
    exact hmem
  rw [SearchManager.handleChats, h.requestId, if_neg (fun hne => hne rfl)]
  refine h.next rfl rfl (fun chatId hmem => .inl hmem) rfl ?_ h.public_same h.messages rfl
  simp only [GlobalReplies.readChats, hids]
  exact hfilter

lemma Answered.publicChats (h : Answered s replies done m) (hunblocked : Unblocked s replies (done ++ [target]))
    {ids : List ℤ} (hids : replies.readPublicChats target = parseChatIds ids)
    (htarget : target = .publicChatsChannel ∨ target = .publicChatsBot) :
    Answered s replies (done ++ [target])
      (m.handlePublicChats (s.global.globalRequestId + 1) (parseChatIds ids)) := by
  have hpublic := h.unfiltered_public hunblocked
  rw [SearchManager.handlePublicChats, h.requestId, if_neg (fun hne => hne rfl)]
  rw [hids] at hpublic
  rcases htarget with rfl | rfl
  · exact h.next rfl rfl (fun chatId hmem => .inl hmem) rfl rfl (hids ▸ hpublic) h.messages rfl
  · exact h.next rfl rfl (fun chatId hmem => .inl hmem) rfl rfl (hids ▸ hpublic) h.messages rfl

lemma Answered.sponsoredChats (h : Answered s replies done m) {ids : List ℤ}
    (hids : replies.sponsoredChats = some ids) :
    Answered s replies (done ++ [.sponsoredChats])
      (m.handleSponsoredChats (.global .sponsoredChats (s.global.globalRequestId + 1)) ids) := by
  rw [SearchManager.handleSponsoredChats, h.requestId, if_neg (fun hne => hne rfl)]
  refine h.nothing rfl rfl (fun chatId hmem => ?_) rfl rfl rfl rfl rfl rfl rfl
  have hadded : chatId ∈ (m.global.sponsoredSearchChatIds ++ ids).eraseDups := hmem
  rw [List.mem_eraseDups, List.mem_append] at hadded
  rw [hids]
  exact hadded.imp_right fun hnew => ⟨rfl, hnew⟩

lemma Answered.foundMessages (h : Answered s replies done m) {found : List FoundMessage} {nextOffset : String}
    (hfound : replies.messages = some (found, nextOffset)) :
    Answered s replies (done ++ [.messages])
      (m.handleFoundMessages (.global .messages (s.global.globalRequestId + 1)) found nextOffset) := by
  rw [SearchManager.handleFoundMessages, h.requestId, if_neg (fun hne => hne rfl)]
  refine h.next rfl rfl (fun chatId hmem => .inl hmem) rfl rfl h.public_same ?_ rfl
  simp only [GlobalReplies.readMessages, hfound]
  rfl

lemma Answered.publicChat (h : Answered s replies done m) (hunblocked : Unblocked s replies (done ++ [.publicChat]))
    {chatId : ℤ} {title : String} (hchat : replies.publicChat = some (chatId, title)) :
    Answered s replies (done ++ [.publicChat])
      (m.handleChat (some (.global .publicChat (s.global.globalRequestId + 1))) chatId title) := by
  have hread : replies.readPublicChats .publicChat = [chatId] := by
    simp only [GlobalReplies.readPublicChats, hchat]
    rfl
  have hpublic := h.unfiltered_public hunblocked
  rw [hread] at hpublic
  rw [SearchManager.handleChat]
  dsimp only
  rw [h.requestId, if_pos rfl]
  refine h.next rfl rfl (fun chatId hmem => .inl hmem) ?_ rfl ?_ ?_ rfl
  · rw [GlobalReplies.readTitle, hchat]
    rfl
  · rw [hread]
    exact hpublic
  · have hmessages := congrArg (List.map fun hit : SearchMessageHit =>
      if hit.chatId = chatId then { hit with chatTitle := some title } else hit) h.messages
    rw [entitled_retitled] at hmessages
    exact hmessages

lemma Answered.user (h : Answered s replies done m) {hit : SearchUserHit} (hhit : replies.readUser target = some hit) :
    Answered s replies (done ++ [target]) (m.handleGlobalUser (s.global.globalRequestId + 1) hit) := by
  rw [SearchManager.handleGlobalUser, h.requestId, if_neg (fun hne => hne rfl)]
  have htarget : target = .userPhone ∨ target = .userToken := by
    cases target with
    | userPhone => exact .inl rfl
    | userToken => exact .inr rfl
    | _ => cases hhit
  rcases htarget with rfl | rfl
  · refine h.next rfl rfl (fun chatId hmem => .inl hmem) rfl rfl h.public_same h.messages ?_
    rw [hhit]
    rfl
  · refine h.next rfl rfl (fun chatId hmem => .inl hmem) rfl rfl h.public_same h.messages ?_
    rw [hhit]
    rfl

/-- **One answer more.** -/
lemma Answered.step (h : Answered s replies done m) (hmore : target ≠ .messagesMore)
    (hunblocked : Unblocked s replies (done ++ [target])) :
    Answered s replies (done ++ [target])
      (m.handleUpdate (replies.update (s.global.globalRequestId + 1) target)) := by
  cases hreply : replies.reply (s.global.globalRequestId + 1) target with
  | none => exact h.error hreply
  | some update =>
      rw [GlobalReplies.update, hreply]
      cases target with
      | chats =>
          rcases Option.map_eq_some_iff.mp hreply with ⟨ids, hids, rfl⟩
          exact h.chats hunblocked hids
      | messages =>
          rcases Option.map_eq_some_iff.mp hreply with ⟨found, hfound, rfl⟩
          exact h.foundMessages hfound
      | publicChatsChannel =>
          rcases Option.map_eq_some_iff.mp hreply with ⟨ids, hids, rfl⟩
          exact h.publicChats hunblocked (by rw [GlobalReplies.readPublicChats, hids]; rfl) (.inl rfl)
      | publicChatsBot =>
          rcases Option.map_eq_some_iff.mp hreply with ⟨ids, hids, rfl⟩
          exact h.publicChats hunblocked (by rw [GlobalReplies.readPublicChats, hids]; rfl) (.inr rfl)
      | sponsoredChats =>
          rcases Option.map_eq_some_iff.mp hreply with ⟨ids, hids, rfl⟩
          exact h.sponsoredChats hids
      | publicChat =>
          rcases Option.map_eq_some_iff.mp hreply with ⟨chat, hchat, rfl⟩
          exact h.publicChat hunblocked hchat
      | userPhone =>
          rcases Option.map_eq_some_iff.mp hreply with ⟨hit, hhit, rfl⟩
          exact h.user hhit
      | userToken =>
          rcases Option.map_eq_some_iff.mp hreply with ⟨hit, hhit, rfl⟩
          exact h.user hhit
      | messagesMore => exact absurd rfl hmore

end Answered

/-! ## After all of the answers -/

section Orders

variable {P : Platform} {tryParse : String → Option LinkUri} {s m : SearchManager} {replies : GlobalReplies}
  {done order : List GlobalTarget} {chatId : ℤ}

lemma answered_start : Answered s replies [] (s.performGlobalSearch P tryParse) where
  requestId := rfl
  shouldBlockAds := rfl
  sponsored _ hmem := absurd hmem List.not_mem_nil
  titles := rfl
  chatIds := rfl
  publicChatIds := rfl
  messages := rfl
  userHit := rfl

lemma answeredIn_concat (order : List GlobalTarget) (target : GlobalTarget) :
    s.answeredIn P tryParse replies (order ++ [target]) =
      (s.answeredIn P tryParse replies order).handleUpdate
        (replies.update (s.global.globalRequestId + 1) target) := by
  rw [SearchManager.answeredIn, List.foldl_append]
  rfl

/-- **The answers in any order**, as long as no sponsored chat matters for them. -/
lemma answeredIn_answered (hmore : .messagesMore ∉ order) (hunblocked : Unblocked s replies order) :
    Answered s replies order (s.answeredIn P tryParse replies order) := by
  induction order using List.reverseRecOn with
  | nil => exact answered_start
  | append_singleton order target ih =>
      rw [answeredIn_concat]
      have hbefore := ih (fun hmem => hmore (List.mem_append_left _ hmem)) hunblocked.of_concat
      refine hbefore.step (fun heq => hmore ?_) hunblocked
      rw [heq]
      exact List.mem_append_right _ List.mem_cons_self

/-- What is read of the chats that are found. -/
lemma read_iff (target : GlobalTarget) :
    (chatId ∈ (replies.readChats target).getD [] ∨ chatId ∈ replies.readPublicChats target) ↔
      chatId ∈ replies.foundIds target ∧ (0 < chatId ∨ target = .publicChat) := by
  cases target with
  | chats =>
      cases hchats : replies.chats with
      | none => simp [GlobalReplies.readChats, GlobalReplies.readPublicChats, GlobalReplies.foundIds, hchats]
      | some ids =>
          simp [GlobalReplies.readChats, GlobalReplies.readPublicChats, GlobalReplies.foundIds, parseChatIds, hchats]
  | publicChatsChannel =>
      simp [GlobalReplies.readChats, GlobalReplies.readPublicChats, GlobalReplies.foundIds, parseChatIds]
  | publicChatsBot =>
      simp [GlobalReplies.readChats, GlobalReplies.readPublicChats, GlobalReplies.foundIds, parseChatIds]
  | _ => simp [GlobalReplies.readChats, GlobalReplies.readPublicChats, GlobalReplies.foundIds]

lemma eq_chats_of_readChats {target : GlobalTarget} {ids : List ℤ} (h : replies.readChats target = some ids) :
    target = .chats := by
  cases target with
  | chats => rfl
  | _ => cases h

lemma mem_last_readChats :
    chatId ∈ (Merging.last replies.readChats done).getD [] ↔
      ∃ target ∈ done, chatId ∈ (replies.readChats target).getD [] := by
  cases hlast : Merging.last replies.readChats done with
  | none =>
      rw [Merging.last_eq_none_iff] at hlast
      refine iff_of_false List.not_mem_nil ?_
      rintro ⟨target, htarget, hmem⟩
      rw [hlast target htarget] at hmem
      cases hmem
  | some ids =>
      rcases Merging.exists_of_last hlast with ⟨target, htarget, hread⟩
      constructor
      · exact fun hmem => ⟨target, htarget, by rw [hread]; exact hmem⟩
      · rintro ⟨target', -, hmem⟩
        cases hread' : replies.readChats target' with
        | none =>
            rw [hread'] at hmem
            cases hmem
        | some ids' =>
            rw [eq_chats_of_readChats hread', ← eq_chats_of_readChats hread, hread] at hmem
            exact hmem

/-- The chats that are shown. -/
lemma Answered.mem_results (h : Answered s replies done m) :
    (chatId ∈ m.global.results.chatIds ∨ chatId ∈ m.global.results.publicChatIds) ↔
      ∃ target ∈ done, chatId ∈ replies.foundIds target ∧ (0 < chatId ∨ target = .publicChat) := by
  have hchatIds : m.global.results.chatIds = (Merging.last replies.readChats done).getD [] := h.chatIds
  have hpublic : m.global.results.publicChatIds = Merging.merged replies.readPublicChats done := h.publicChatIds
  rw [hchatIds, hpublic, mem_last_readChats, Merging.mem_merged, ← exists_or]
  refine exists_congr fun target => ?_
  rw [← and_or_left, read_iff]

lemma noMore_of_perm (h : order.Perm (s.searchTargets P tryParse).targets) : .messagesMore ∉ order :=
  fun hmem => (s.searchTargets P tryParse).noMore (h.mem_iff.mp hmem)

/-- Where just the chats that are to be shown are read no sponsored chat matters. -/
lemma unblocked_of_signs
    (hsigns : ∀ target ∈ (s.searchTargets P tryParse).targets, ∀ chatId ∈ replies.foundIds target,
      (0 < chatId ∨ .publicChat ∈ (s.searchTargets P tryParse).targets ∧ chatId ∈ replies.foundIds .publicChat) ↔
        chatId ∉ replies.blockedIds s.shouldBlockAds)
    (h : order.Perm (s.searchTargets P tryParse).targets) : Unblocked s replies order := by
  refine .inr fun target htarget chatId hread => ?_
  rcases (read_iff target).mp hread with ⟨hfound, hshown⟩
  have hmem := h.mem_iff.mp htarget
  refine (hsigns target hmem chatId hfound).mp (hshown.imp_right ?_)
  rintro rfl
  exact ⟨hmem, hfound⟩

/-- The results of an unambiguous search. -/
lemma resultsAfter_eq (hright : s.Unambiguous P tryParse replies)
    (h : order.Perm (s.searchTargets P tryParse).targets) :
    s.resultsAfter P tryParse replies order =
      { chatIds := (Merging.last replies.readChats (s.searchTargets P tryParse).targets).getD []
        publicChatIds := Merging.merged replies.readPublicChats (s.searchTargets P tryParse).targets
        messages := entitled
          (retitled s.chatTitles (Merging.last replies.readTitle (s.searchTargets P tryParse).targets))
          ((Merging.last replies.readMessages (s.searchTargets P tryParse).targets).getD [])
        userHit := Merging.last replies.readUser (s.searchTargets P tryParse).targets } := by
  have hanswered : Answered s replies order (s.answeredIn P tryParse replies order) :=
    answeredIn_answered (noMore_of_perm h) (unblocked_of_signs hright.signs h)
  have hchats : Merging.last replies.readChats order =
      Merging.last replies.readChats (s.searchTargets P tryParse).targets := by
    refine Merging.last_perm_iff.mpr (fun target _ target' _ ids ids' hids hids' => ?_) order h
    rw [eq_chats_of_readChats hids, ← eq_chats_of_readChats hids', hids'] at hids
    exact (Option.some.inj hids).symm
  have htitle : Merging.last replies.readTitle order =
      Merging.last replies.readTitle (s.searchTargets P tryParse).targets := by
    refine Merging.last_perm_iff.mpr (fun target _ target' _ chat chat' hchat hchat' => ?_) order h
    exact Option.some.inj ((eq_publicChat_of_readTitle hchat).symm.trans (eq_publicChat_of_readTitle hchat'))
  have hmessages : Merging.last replies.readMessages order =
      Merging.last replies.readMessages (s.searchTargets P tryParse).targets := by
    have hsource : ∀ {target : GlobalTarget} {hits}, replies.readMessages target = some hits →
        target = .messages := by
      intro target hits hread
      cases target with
      | messages => rfl
      | _ => cases hread
    refine Merging.last_perm_iff.mpr (fun target _ target' _ hits hits' hread hread' => ?_) order h
    rw [hsource hread, ← hsource hread', hread'] at hread
    exact (Option.some.inj hread).symm
  have hpublic : Merging.merged replies.readPublicChats order =
      Merging.merged replies.readPublicChats (s.searchTargets P tryParse).targets :=
    Merging.merged_perm_iff.mpr hright.chain order h
  have huser : Merging.last replies.readUser order =
      Merging.last replies.readUser (s.searchTargets P tryParse).targets :=
    Merging.last_perm_iff.mpr hright.user order h
  refine GlobalResults.ext ?_ ?_ ?_ ?_
  · exact hanswered.chatIds.trans (by rw [hchats])
  · exact hanswered.publicChatIds.trans hpublic
  · refine hanswered.messages.trans ?_
    rw [hanswered.titles, htitle, hmessages]
  · exact hanswered.userHit.trans huser

lemma complete_of_unambiguous (hright : s.Unambiguous P tryParse replies) : s.Complete P tryParse replies where
  complete order h chatId := by
    have hanswered : Answered s replies order (s.answeredIn P tryParse replies order) :=
      answeredIn_answered (noMore_of_perm h) (unblocked_of_signs hright.signs h)
    refine hanswered.mem_results.trans ⟨?_, ?_⟩
    · rintro ⟨target, htarget, hfound, hshown⟩
      have hmem := h.mem_iff.mp htarget
      refine ⟨⟨target, hmem, hfound⟩, (hright.signs target hmem chatId hfound).mp (hshown.imp_right ?_)⟩
      rintro rfl
      exact ⟨hmem, hfound⟩
    · rintro ⟨⟨target, htarget, hfound⟩, hnot⟩
      rcases (hright.signs target htarget chatId hfound).mpr hnot with hpos | ⟨hmem, hchat⟩
      · exact ⟨target, h.mem_iff.mpr htarget, hfound, .inl hpos⟩
      · exact ⟨.publicChat, h.mem_iff.mpr hmem, hchat, .inr rfl⟩
  same order order' h h' := by rw [resultsAfter_eq hright h, resultsAfter_eq hright h']

/-! ### When the sponsored chats come last -/

lemma sponsored_results (requestId : ℕ) :
    (m.handleUpdate (replies.update requestId .sponsoredChats)).global.results = m.global.results := by
  cases hids : replies.sponsoredChats with
  | none =>
      have hupdate : replies.update requestId .sponsoredChats =
          .error (some (.global .sponsoredChats requestId)) none := by
        rw [GlobalReplies.update, GlobalReplies.reply, hids]
        rfl
      rw [hupdate]
      exact (handleError_results m .sponsoredChats requestId none).1
  | some ids =>
      have hupdate : replies.update requestId .sponsoredChats =
          .sponsoredChats (some (.global .sponsoredChats requestId)) ids := by
        rw [GlobalReplies.update, GlobalReplies.reply, hids]
        rfl
      rw [hupdate, SearchManager.handleUpdate, SearchManager.handleSponsoredChats]
      split_ifs <;> rfl

/-- There is an order in which nothing that is read is filtered. -/
lemma exists_unfiltered : ∃ order, order.Perm (s.searchTargets P tryParse).targets ∧ ∀ chatId,
    (chatId ∈ (s.resultsAfter P tryParse replies order).chatIds ∨
        chatId ∈ (s.resultsAfter P tryParse replies order).publicChatIds) ↔
      ∃ target ∈ (s.searchTargets P tryParse).targets,
        chatId ∈ replies.foundIds target ∧ (0 < chatId ∨ target = .publicChat) := by
  have hnoMore := (s.searchTargets P tryParse).noMore
  by_cases hsponsored : .sponsoredChats ∈ (s.searchTargets P tryParse).targets
  · have hperm : ((s.searchTargets P tryParse).targets.erase .sponsoredChats ++ [GlobalTarget.sponsoredChats]).Perm
        (s.searchTargets P tryParse).targets :=
      (List.perm_append_singleton _ _).trans (List.perm_cons_erase hsponsored).symm
    have hanswered : Answered s replies ((s.searchTargets P tryParse).targets.erase .sponsoredChats)
        (s.answeredIn P tryParse replies ((s.searchTargets P tryParse).targets.erase .sponsoredChats)) :=
      answeredIn_answered (fun hmem => hnoMore (List.mem_of_mem_erase hmem))
        (.inl (s.searchTargets P tryParse).nodup.not_mem_erase)
    refine ⟨_, hperm, fun chatId => ?_⟩
    rw [SearchManager.resultsAfter, answeredIn_concat, sponsored_results]
    refine hanswered.mem_results.trans ⟨?_, ?_⟩
    · rintro ⟨target, htarget, hfound⟩
      exact ⟨target, List.mem_of_mem_erase htarget, hfound⟩
    · rintro ⟨target, htarget, hfound, hshown⟩
      refine ⟨target, (List.mem_erase_of_ne ?_).mpr htarget, hfound, hshown⟩
      rintro rfl
      cases hfound
  · refine ⟨(s.searchTargets P tryParse).targets, .refl _, fun chatId => ?_⟩
    exact (answeredIn_answered hnoMore (.inl hsponsored)).mem_results

lemma signs_of_complete (h : s.Complete P tryParse replies) :
    ∀ target ∈ (s.searchTargets P tryParse).targets, ∀ chatId ∈ replies.foundIds target,
      (0 < chatId ∨ .publicChat ∈ (s.searchTargets P tryParse).targets ∧ chatId ∈ replies.foundIds .publicChat) ↔
        chatId ∉ replies.blockedIds s.shouldBlockAds := by
  intro target htarget chatId hfound
  rcases exists_unfiltered (P := P) (s := s) with ⟨order, horder, hshown⟩
  have hiff := (hshown chatId).symm.trans (h.complete order horder chatId)
  constructor
  · rintro (hpos | ⟨hmem, hchat⟩)
    · exact (hiff.mp ⟨target, htarget, hfound, .inl hpos⟩).2
    · exact (hiff.mp ⟨.publicChat, hmem, hchat, .inr rfl⟩).2
  · intro hnot
    rcases hiff.mpr ⟨⟨target, htarget, hfound⟩, hnot⟩ with ⟨target', htarget', hfound', hpos | rfl⟩
    · exact .inl hpos
    · exact .inr ⟨htarget', hfound'⟩

lemma unambiguous_of_complete (h : s.Complete P tryParse replies) : s.Unambiguous P tryParse replies := by
  have hsigns := signs_of_complete h
  have hanswered : ∀ order, order.Perm (s.searchTargets P tryParse).targets →
      Answered s replies order (s.answeredIn P tryParse replies order) := fun order horder =>
    answeredIn_answered (noMore_of_perm horder) (unblocked_of_signs hsigns horder)
  refine ⟨hsigns, Merging.merged_perm_iff.mp fun order horder => ?_, Merging.last_perm_iff.mp fun order horder => ?_⟩
  · have hsame := congrArg GlobalResults.publicChatIds (h.same order _ horder (.refl _))
    exact (hanswered order horder).publicChatIds.symm.trans (hsame.trans (hanswered _ (.refl _)).publicChatIds)
  · have hsame := congrArg GlobalResults.userHit (h.same order _ horder (.refl _))
    exact (hanswered order horder).userHit.symm.trans (hsame.trans (hanswered _ (.refl _)).userHit)

/-- The results are complete and the same for every order exactly if they are not ambiguous. -/
lemma complete_iff : s.Complete P tryParse replies ↔ s.Unambiguous P tryParse replies :=
  ⟨unambiguous_of_complete, complete_of_unambiguous⟩

end Orders

/-! ## After the search is cleared -/

/-- An answer to the latest request brings nothing that would be shown. -/
@[grind =]
def SearchManager.Harmless (s : SearchManager) : SearchUpdate → Prop
  | .chats (some (.global .chats requestId)) ids
  | .chats (some (.global .publicChatsChannel requestId)) ids
  | .chats (some (.global .publicChatsBot requestId)) ids =>
      requestId = s.global.globalRequestId → s.filterSearchChatIds (parseChatIds ids) = []
  | .chat (some (.global .publicChat requestId)) chatId _ =>
      requestId = s.global.globalRequestId → s.filterSearchChatIds [chatId] = []
  | .foundMessages (some (.global .messages requestId)) found _
  | .foundMessages (some (.global .messagesMore requestId)) found _ =>
      requestId = s.global.globalRequestId → parseFoundMessages found = []
  | .user (some (.global .userPhone requestId)) _ | .user (some (.global .userToken requestId)) _ =>
      requestId ≠ s.global.globalRequestId
  | _ => True

section Cleared

variable {s : SearchManager}

lemma results_eq_empty_iff (search : GlobalSearch) : search.results = {} ↔
    search.globalChatIds = [] ∧ search.publicChatIds = [] ∧ search.globalMessages = [] ∧
      search.globalUserHit = none :=
  GlobalResults.ext_iff

lemma mem_filterSearchChatIds {chatIds : List ℤ} {chatId : ℤ} :
    chatId ∈ s.filterSearchChatIds chatIds ↔
      chatId ∈ chatIds ∧ (s.shouldBlockAds → chatId ∉ s.global.sponsoredSearchChatIds) := by
  rw [SearchManager.filterSearchChatIds]
  split_ifs with hads
  · simp [hads]
  · simp [hads]

lemma filterSearchChatIds_eraseDups (chatIds : List ℤ) :
    s.filterSearchChatIds chatIds.eraseDups = [] ↔ s.filterSearchChatIds chatIds = [] := by
  simp only [List.eq_nil_iff_forall_not_mem, mem_filterSearchChatIds, List.mem_eraseDups]

/-- Public chats that are added to none. -/
lemma addPublicChats_empty_iff (h : s.global.results = {}) (chatIds : List ℤ) :
    (s.addPublicChats chatIds).global.results = {} ↔ s.filterSearchChatIds chatIds = [] := by
  rcases (results_eq_empty_iff _).mp h with ⟨hchats, hpublic, hmessages, huser⟩
  rw [results_eq_empty_iff, ← filterSearchChatIds_eraseDups]
  simp [SearchManager.addPublicChats, hchats, hpublic, hmessages, huser]

lemma handlePublicChats_empty_iff (h : s.global.results = {}) (requestId : ℕ) (chatIds : List ℤ) :
    (s.handlePublicChats requestId chatIds).global.results = {} ↔
      (requestId = s.global.globalRequestId → s.filterSearchChatIds chatIds = []) := by
  rw [SearchManager.handlePublicChats]
  split_ifs with hne
  · exact iff_of_true h fun heq => absurd heq hne
  · rw [← addPublicChats_empty_iff h chatIds, forall_prop_of_true (not_not.mp hne)]
    rfl

lemma handleNewChats_results (s : SearchManager) (requestId : ℕ) (chatIds : List ℤ) (isPublic : Bool) :
    (s.handleNewChats requestId chatIds isPublic).global.results = s.global.results := by
  rw [SearchManager.handleNewChats]
  split_ifs <;> rfl

lemma handleChats_empty_iff (h : s.global.results = {}) (extra : SearchExtra) (ids : List ℤ) :
    (s.handleChats extra ids).global.results = {} ↔ s.Harmless (.chats (some extra) ids) := by
  rcases (results_eq_empty_iff _).mp h with ⟨hchats, hpublic, hmessages, huser⟩
  cases extra with
  | global target requestId =>
      cases target with
      | chats =>
          simp only [SearchManager.handleChats, SearchManager.Harmless]
          split_ifs with hne
          · exact iff_of_true h fun heq => absurd heq hne
          · rw [forall_prop_of_true (not_not.mp hne), results_eq_empty_iff]
            simp [SearchManager.completeGlobalRequest, SearchManager.ensureChatTitles, SearchManager.send,
              SearchManager.setGlobalChatIds, hpublic, hmessages, huser]
      | publicChatsChannel => exact handlePublicChats_empty_iff h requestId _
      | publicChatsBot => exact handlePublicChats_empty_iff h requestId _
      | _ => exact iff_of_true h trivial
  | newChat target requestId =>
      cases target with
      | searchLocal => exact iff_of_true ((handleNewChats_results s _ _ _).trans h) trivial
      | search => exact iff_of_true ((handleNewChats_results s _ _ _).trans h) trivial
      | publicChatsChannel => exact iff_of_true ((handleNewChats_results s _ _ _).trans h) trivial
      | publicChatsBot => exact iff_of_true ((handleNewChats_results s _ _ _).trans h) trivial
      | _ => exact iff_of_true h trivial
  | _ => exact iff_of_true h trivial

lemma handleSponsoredChats_results (s : SearchManager) (extra : SearchExtra) (ids : List ℤ) :
    (s.handleSponsoredChats extra ids).global.results = s.global.results := by
  rw [SearchManager.handleSponsoredChats.eq_def]
  split
  · split_ifs <;> rfl
  · rfl

/-- Messages that are shown instead of none, or after none. -/
lemma applyGlobalMessages_empty_iff (h : s.global.results = {}) (found : List FoundMessage) (nextOffset : String)
    (append : Bool) :
    (s.applyGlobalMessages found nextOffset append).global.results = {} ↔ parseFoundMessages found = [] := by
  rcases (results_eq_empty_iff _).mp h with ⟨hchats, hpublic, hmessages, huser⟩
  rw [results_eq_empty_iff]
  simp [SearchManager.applyGlobalMessages, SearchManager.ensureChatTitles, SearchManager.send, hchats, hpublic,
    hmessages, huser]

lemma handleFoundMessages_empty_iff (h : s.global.results = {}) (extra : SearchExtra) (found : List FoundMessage)
    (nextOffset : String) :
    (s.handleFoundMessages extra found nextOffset).global.results = {} ↔
      s.Harmless (.foundMessages (some extra) found nextOffset) := by
  cases extra with
  | global target requestId =>
      cases target with
      | messages =>
          simp only [SearchManager.handleFoundMessages, SearchManager.Harmless]
          split_ifs with hne
          · exact iff_of_true h fun heq => absurd heq hne
          · rw [forall_prop_of_true (not_not.mp hne), ← applyGlobalMessages_empty_iff h found nextOffset false]
            rfl
      | messagesMore =>
          simp only [SearchManager.handleFoundMessages, SearchManager.Harmless]
          split_ifs with hne
          · exact iff_of_true h fun heq => absurd heq hne
          · rw [forall_prop_of_true (not_not.mp hne), ← applyGlobalMessages_empty_iff h found nextOffset true]
            rfl
      | _ => exact iff_of_true h trivial
  | _ => exact iff_of_true h trivial

lemma refreshMessageTitles_empty_iff (s : SearchManager) (chatId : ℤ) (title : String) :
    (s.refreshMessageTitles chatId title).global.results = {} ↔ s.global.results = {} := by
  rw [results_eq_empty_iff, results_eq_empty_iff]
  simp [SearchManager.refreshMessageTitles]

lemma handleChat_empty_iff (h : s.global.results = {}) (extra : Option SearchExtra) (chatId : ℤ) (title : String) :
    (s.handleChat extra chatId title).global.results = {} ↔ s.Harmless (.chat extra chatId title) := by
  simp only [SearchManager.handleChat]
  rw [refreshMessageTitles_empty_iff]
  cases extra with
  | none => exact iff_of_true h trivial
  | some extra =>
      cases extra with
      | global target requestId =>
          cases target with
          | publicChat =>
              simp only [SearchManager.Harmless]
              split_ifs with hid
              · rw [forall_prop_of_true hid]
                exact addPublicChats_empty_iff (s := { s with
                  chatTitles := fun i => if i = chatId then some title else s.chatTitles i }) h [chatId]
              · exact iff_of_true h fun heq => absurd heq hid
          | _ => exact iff_of_true h trivial
      | newChat target requestId =>
          cases target with
          | publicChat =>
              refine iff_of_true ?_ trivial
              dsimp only
              split_ifs
              · exact h
              · exact h
          | _ => exact iff_of_true h trivial
      | _ => exact iff_of_true h trivial

lemma handleGlobalUser_empty_iff (h : s.global.results = {}) (requestId : ℕ) (hit : SearchUserHit) :
    (s.handleGlobalUser requestId hit).global.results = {} ↔ requestId ≠ s.global.globalRequestId := by
  rw [SearchManager.handleGlobalUser]
  split_ifs with hne
  · exact iff_of_true h hne
  · refine iff_of_false (fun hempty => ?_) hne
    cases congrArg GlobalResults.userHit hempty

lemma handleUser_empty_iff (h : s.global.results = {}) (extra : SearchExtra) (hit : SearchUserHit) :
    (s.handleUser extra hit).global.results = {} ↔ s.Harmless (.user (some extra) hit) := by
  have hnewChat : ∀ requestId, (s.handleNewChatUser requestId hit).global.results = {} := by
    intro requestId
    rw [SearchManager.handleNewChatUser]
    split_ifs
    · exact h
    · exact h
  cases extra with
  | global target requestId =>
      cases target with
      | userPhone => exact handleGlobalUser_empty_iff h requestId hit
      | userToken => exact handleGlobalUser_empty_iff h requestId hit
      | _ => exact iff_of_true h trivial
  | newChat target requestId =>
      cases target with
      | phone => exact iff_of_true (hnewChat requestId) trivial
      | token => exact iff_of_true (hnewChat requestId) trivial
      | _ => exact iff_of_true h trivial
  | _ => exact iff_of_true h trivial

/-- With no results an answer brings some exactly if it is not harmless. -/
lemma handleUpdate_empty_iff (s : SearchManager) (update : SearchUpdate) (h : s.global.results = {}) :
    (s.handleUpdate update).global.results = {} ↔ s.Harmless update := by
  cases update with
  | chat extra chatId title => exact handleChat_empty_iff h extra chatId title
  | chats extra ids =>
      cases extra with
      | none => exact iff_of_true h trivial
      | some extra => exact handleChats_empty_iff h extra ids
  | sponsoredChats extra ids =>
      cases extra with
      | none => exact iff_of_true h trivial
      | some extra => exact iff_of_true ((handleSponsoredChats_results s extra ids).trans h) trivial
  | foundMessages extra found nextOffset =>
      cases extra with
      | none => exact iff_of_true h trivial
      | some extra => exact handleFoundMessages_empty_iff h extra found nextOffset
  | foundChatMessages extra found next totalCount =>
      refine iff_of_true ?_ trivial
      cases extra with
      | none => exact h
      | some extra =>
          rw [SearchManager.handleUpdate, SearchManager.handleFoundChatMessages.eq_def]
          split
          · exact h
          · split
            · exact h
            · exact h
            · exact h
  | user extra hit =>
      cases extra with
      | none => exact iff_of_true h trivial
      | some extra => exact handleUser_empty_iff h extra hit
  | error extra message =>
      refine iff_of_true ?_ trivial
      cases extra with
      | none => exact h
      | some extra =>
          cases extra with
          | global target requestId => exact (handleError_results s target requestId message).1.trans h
          | newChat target requestId =>
              simp only [SearchManager.handleUpdate, SearchManager.handleError]
              split_ifs
              · exact h
              · exact h
          | _ => exact h

end Cleared

/-- **When the results are right.**  They are what TDLib has found without what is blocked, and the same for every
order of the answers, exactly if the answers are not ambiguous; and after the search is cleared there are none all
along exactly if every late answer is harmless. -/
theorem results_complete_iff (P : Platform) (tryParse : String → Option LinkUri) :
    (∀ (s : SearchManager) replies, s.Complete P tryParse replies ↔ s.Unambiguous P tryParse replies) ∧
    ∀ (s : SearchManager) (updates : List SearchUpdate),
      (∀ before, before <+: updates →
        (before.foldl SearchManager.handleUpdate s.clearGlobalResults).global.results = {}) ↔
      Meets SearchManager.handleUpdate SearchManager.Harmless s.clearGlobalResults updates :=
  ⟨fun _ _ => complete_iff, fun _ updates =>
    forall_prefix_iff_meets (I := fun s : SearchManager => s.global.results = {}) handleUpdate_empty_iff rfl updates⟩

/-- A query that is neither a username nor a phone number nor a token. -/
def asking (shouldBlockAds : Bool) : SearchManager := { shouldBlockAds, global := { globalQuery := "a b" } }

/-- **A group is not found; a sponsored chat is shown if that is told last; public chats are shown in the order of
the answers; and a late answer is shown after the search is cleared.** -/
theorem results_incomplete :
    ¬(asking false).Complete .plain (fun _ => none) { chats := some [-5] } ∧
    ((asking true).resultsAfter .plain (fun _ => none) { chats := some [5], sponsoredChats := some [5] }
      [.chats, .messages, .publicChatsChannel, .publicChatsBot, .sponsoredChats]).chatIds = [5] ∧
    ¬(asking false).Complete .plain (fun _ => none)
      { publicChatsChannel := some [2], publicChatsBot := some [3] } ∧
    (((asking false).performGlobalSearch .plain fun _ => none).clearGlobalSearch.handleUpdate
      (.chats (some (.global .chats 1)) [5])).global.results.chatIds = [5] := by
  refine ⟨fun h => ?_, by decide, fun h => ?_, by decide⟩
  · have hnone : -5 ∉ ((asking false).resultsAfter .plain (fun _ => none) { chats := some [-5] }
        [.chats, .messages, .publicChatsChannel, .publicChatsBot]).chatIds ∧
        -5 ∉ ((asking false).resultsAfter .plain (fun _ => none) { chats := some [-5] }
          [.chats, .messages, .publicChatsChannel, .publicChatsBot]).publicChatIds := by decide
    rcases (h.complete _ (.refl _) (-5)).mpr ⟨⟨.chats, by decide, by decide⟩, by decide⟩ with hmem | hmem
    · exact hnone.1 hmem
    · exact hnone.2 hmem
  · have hsame := congrArg GlobalResults.publicChatIds (h.same
      [.chats, .messages, .publicChatsChannel, .publicChatsBot]
      [.chats, .messages, .publicChatsBot, .publicChatsChannel] (by decide) (by decide))
    exact absurd hsame (by decide)

end RioGram.Search
