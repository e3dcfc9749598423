import RioGram.Chats.ChatLists

/-!
# The order of a chat list

The chats of the active list are sorted by `compareInList`: those with a position come before the others, the
pinned ones first, then those with a larger order, and at last it is the id that decides.  `sortKey` puts these
four into one value of a linear order.

* `compareInList_eq`: chats compare as their keys do.
* `visibleChats_determined`: whatever sorts them, what is shown is one list, which the chats with their positions
  determine, in whatever order the updates of different chats came.
* `sponsored_chat_hidden`: a chat of the active list that is not shown.
-/

namespace RioGram.Chats

open Keyed Reaching

/-! ## The comparison -/

/-- What the place of a chat in a list depends on: its id and its positions. -/
abbrev Standing := ℤ × List ChatPositionInfo

def ListedChat.standing (chat : ListedChat) : Standing := (chat.chat.id, chat.positions)

/-- Whether the chat is not in the list, whether it is not pinned there, its order from below, and its id. -/
abbrev SortKey := Bool ×ₗ Bool ×ₗ ℤ ×ₗ ℤ

def sortKey (list : ChatListKey) (standing : Standing) : SortKey :=
  match standing.2.find? (·.list.storageId == list.storageId) with
  | none => toLex (true, toLex (true, toLex (0, standing.1)))
  | some position => toLex (false, toLex (!position.isPinned, toLex (-position.order, standing.1)))

lemma id_of_sortKey {list : ChatListKey} {a b : Standing} (h : sortKey list a = sortKey list b) : a.1 = b.1 := by
  have hid (standing : Standing) : (ofLex (ofLex (ofLex (sortKey list standing)).2).2).2 = standing.1 := by
    rw [sortKey]
    split
    · rfl
    · rfl
  rw [← hid a, h, hid b]

lemma compare_neg (a b : ℤ) : compare (-a) (-b) = compare b a := by
  rcases lt_trichotomy a b with h | h | h
  · rw [compare_gt_iff_gt.mpr (neg_lt_neg h), compare_gt_iff_gt.mpr h]
  · rw [h, compare_eq_iff_eq.mpr rfl, compare_eq_iff_eq.mpr rfl]
  · rw [compare_lt_iff_lt.mpr (neg_lt_neg h), compare_lt_iff_lt.mpr h]

lemma compare_toLex {α β : Type} [LinearOrder α] [LinearOrder β] (a a' : α) (b b' : β) :
    compare (toLex (a, b)) (toLex (a', b')) = (compare a a').then (compare b b') :=
  congrFun₂ Prod.Lex.compare_def (toLex (a, b)) (toLex (a', b'))

/-- Chats compare as their keys do. -/
lemma compareInList_eq (a b : ListedChat) (list : ChatListKey) :
    compareInList a b list = compare (sortKey list a.standing) (sortKey list b.standing) := by
  simp only [compareInList, sortKey, ListedChat.positionIn, ListedChat.standing]
  cases a.positions.find? (·.list.storageId == list.storageId) with
  | none =>
      cases b.positions.find? (·.list.storageId == list.storageId) with
      | none =>
          simp only [compare_toLex]
          rfl
      | some posB =>
          simp only [compare_toLex]
          rfl
  | some posA =>
      cases b.positions.find? (·.list.storageId == list.storageId) with
      | none =>
          simp only [compare_toLex]
          rfl
      | some posB =>
          simp only [compare_toLex, compare_neg]
          cases posA.isPinned <;> cases posB.isPinned <;> rfl

lemma isLE_iff {a b : ListedChat} {list : ChatListKey} :
    (compareInList a b list).isLE ↔ sortKey list a.standing ≤ sortKey list b.standing := by
  rw [compareInList_eq]
  exact Ordering.isLE_iff_ne_gt.trans compare_le_iff_le

lemma eq_lt_iff {a b : ListedChat} {list : ChatListKey} :
    compareInList a b list = .lt ↔ sortKey list a.standing < sortKey list b.standing := by
  rw [compareInList_eq, compare_lt_iff_lt]

/-! ## Stored chats -/

namespace ChatLists

/-- The chats that the active list shows, in the order in which they were added. -/
def shownChats (s : ChatLists) : List ListedChat :=
  ((s.chatIds.filterMap s.chatById).filter (·.isInList s.activeChatList)).filter (!s.shouldHideSponsoredChat ·)

/-- The positions of a chat, if it is stored. -/
def positionsOf (s : ChatLists) (chatId : ℤ) : Option (List ChatPositionInfo) :=
  (s.chatById chatId).map (·.positions)

/-- Every stored chat is stored once, under its id. -/
structure Stored (s : ChatLists) : Prop where
  nodup : s.chatIds.Nodup
  mem_chatIds : ∀ chatId, chatId ∈ s.chatIds ↔ s.hasChat chatId
  ids : ∀ chatId chat, s.manager.chatsById chatId = some chat → chat.id = chatId

/-- Whether a chat with these positions is shown. -/
def showsWith (s : ChatLists) (positions : List ChatPositionInfo) : Bool :=
  (positions.find? (·.list.storageId == s.activeChatList.storageId)).any (·.order ≠ 0) &&
    !(s.manager.settings.shouldBlockAds && positions.any (·.source == .sponsored))

variable {P : Platform} {s s' : ChatLists}

lemma visibleChats_perm (s : ChatLists) : s.visibleChats.Perm s.shownChats := List.mergeSort_perm _ _

lemma pairwise_visibleChats (s : ChatLists) :
    s.visibleChats.Pairwise fun a b => (compareInList a b s.activeChatList).isLE := by
  refine List.pairwise_mergeSort ?_ ?_ _
  · intro a b c hab hbc
    rw [isLE_iff] at hab hbc ⊢
    exact hab.trans hbc
  · intro a b
    rw [Bool.or_eq_true, isLE_iff, isLE_iff]
    exact le_total _ _

lemma Stored.id_of_chatById (h : s.Stored) {chatId : ℤ} {chat : ListedChat} (hchat : s.chatById chatId = some chat) :
    chat.chat.id = chatId := by
  rcases Option.map_eq_some_iff.mp hchat with ⟨summary, hsummary, rfl⟩
  exact h.ids chatId summary hsummary

lemma mem_shownChats (h : s.Stored) {chat : ListedChat} :
    chat ∈ s.shownChats ↔ s.chatById chat.chat.id = some chat ∧ s.showsWith chat.positions := by
  have hshows : s.showsWith chat.positions =
      (chat.isInList s.activeChatList && !s.shouldHideSponsoredChat chat) := rfl
  simp only [shownChats, List.mem_filter, List.mem_filterMap, hshows, Bool.and_eq_true, ← and_assoc]
  refine and_congr_left fun _ => and_congr_left fun _ => ?_
  constructor
  · rintro ⟨chatId, -, hchat⟩
    rw [h.id_of_chatById hchat]
    exact hchat
  · intro hchat
    have hknown : s.hasChat chat.chat.id := by
      rcases Option.map_eq_some_iff.mp hchat with ⟨summary, hsummary, -⟩
      rw [hasChat, hsummary]
      rfl
    exact ⟨chat.chat.id, (h.mem_chatIds _).mpr hknown, hchat⟩

lemma nodup_shownChats (h : s.Stored) : (s.shownChats.map (·.chat.id)).Nodup := by
  have hids : (s.chatIds.filterMap s.chatById).map (·.chat.id) = s.chatIds.filter s.hasChat := by
    have hchat (chatId : ℤ) : (s.chatById chatId).map (·.chat.id) =
        if s.hasChat chatId then some chatId else none := by
      rw [chatById, hasChat]
      cases hchat : s.manager.chatsById chatId with
      | none => rfl
      | some chat => simpa using h.ids chatId chat hchat
    rw [List.map_filterMap, ← List.filterMap_eq_filter]
    refine List.filterMap_congr fun chatId _ => ?_
    rw [hchat]
    simp [Option.guard]
  have hnodup : ((s.chatIds.filterMap s.chatById).map (·.chat.id)).Nodup := by
    rw [hids]
    exact h.nodup.filter _
  exact hnodup.sublist ((List.filter_sublist.trans List.filter_sublist).map _)

/-- Whatever sorts the chats, there is one list that comes out. -/
lemma eq_visibleChats (h : s.Stored) {chats : List ListedChat} (hperm : chats.Perm s.shownChats)
    (hsorted : chats.Pairwise fun a b => (compareInList a b s.activeChatList).isLE) : chats = s.visibleChats := by
  refine List.Perm.eq_of_pairwise ?_ hsorted s.pairwise_visibleChats (hperm.trans s.visibleChats_perm.symm)
  intro a b ha hb hab hba
  rw [isLE_iff] at hab hba
  have hid : a.chat.id = b.chat.id := id_of_sortKey (hab.antisymm hba)
  have hshown := ((mem_shownChats h).mp (hperm.subset ha)).1
  have hshown' := ((mem_shownChats h).mp (s.visibleChats_perm.subset hb)).1
  rw [hid] at hshown
  exact Option.some_inj.mp (hshown.symm.trans hshown')

/-- No two chats that are shown compare as equal. -/
lemma pairwise_lt_visibleChats (h : s.Stored) :
    s.visibleChats.Pairwise fun a b => compareInList a b s.activeChatList = .lt := by
  have hnodup : (s.visibleChats.map (·.chat.id)).Nodup :=
    ((s.visibleChats_perm.map _).nodup_iff).mpr (nodup_shownChats h)
  have hne : s.visibleChats.Pairwise (fun a b => a.chat.id ≠ b.chat.id) := List.pairwise_map.mp hnodup
  refine (s.pairwise_visibleChats.and hne).imp ?_
  rintro a b ⟨hab, hid⟩
  rw [isLE_iff] at hab
  exact eq_lt_iff.mpr (lt_of_le_of_ne hab fun hkey => hid (id_of_sortKey hkey))

/-! ### What the chats and their positions determine -/

lemma mem_standings (h : s.Stored) {standing : Standing} :
    standing ∈ s.shownChats.map (·.standing) ↔
      s.positionsOf standing.1 = some standing.2 ∧ s.showsWith standing.2 := by
  rw [List.mem_map, positionsOf, Option.map_eq_some_iff]
  constructor
  · rintro ⟨chat, hchat, rfl⟩
    rcases (mem_shownChats h).mp hchat with ⟨hstored, hshows⟩
    exact ⟨⟨chat, hstored, rfl⟩, hshows⟩
  · rintro ⟨⟨chat, hstored, hpositions⟩, hshows⟩
    have hid := h.id_of_chatById hstored
    refine ⟨chat, (mem_shownChats h).mpr ⟨hid ▸ hstored, hpositions ▸ hshows⟩, ?_⟩
    exact Prod.ext hid hpositions

lemma nodup_standings (h : s.Stored) : (s.shownChats.map (·.standing)).Nodup := by
  refine List.Nodup.of_map Prod.fst ?_
  rw [List.map_map]
  exact nodup_shownChats h

/-- States with the same chats at the same positions show them in the same order. -/
lemma standings_visibleChats (h : s.Stored) (h' : s'.Stored) (hlist : s'.activeChatList = s.activeChatList)
    (hads : s'.manager.settings.shouldBlockAds = s.manager.settings.shouldBlockAds)
    (hpositions : ∀ chatId, s'.positionsOf chatId = s.positionsOf chatId) :
    s'.visibleChats.map (·.standing) = s.visibleChats.map (·.standing) := by
  have hsorted (t : ChatLists) : (t.visibleChats.map (·.standing)).Pairwise fun a b =>
      sortKey t.activeChatList a ≤ sortKey t.activeChatList b := by
    rw [List.pairwise_map]
    exact t.pairwise_visibleChats.imp isLE_iff.mp
  have hshows (positions : List ChatPositionInfo) : s'.showsWith positions = s.showsWith positions := by
    rw [showsWith, showsWith, hlist, hads]
  have hperm : (s'.visibleChats.map (·.standing)).Perm (s.visibleChats.map (·.standing)) := by
    refine (s'.visibleChats_perm.map _).trans (.trans ?_ (s.visibleChats_perm.map _).symm)
    refine (List.perm_ext_iff_of_nodup (nodup_standings h') (nodup_standings h)).mpr fun standing => ?_
    rw [mem_standings h', mem_standings h, hpositions, hshows]
  refine List.Perm.eq_of_pairwise ?_ (hsorted s') (hlist ▸ hsorted s) hperm
  intro a b ha hb hab hba
  rw [hlist] at hab hba
  have hid : a.1 = b.1 := id_of_sortKey (hab.antisymm hba)
  have hstored := ((mem_standings h').mp ((s'.visibleChats_perm.map _).subset ha)).1
  have hstored' := ((mem_standings h).mp ((s.visibleChats_perm.map _).subset hb)).1
  rw [hpositions, hid] at hstored
  exact Prod.ext hid (Option.some_inj.mp (hstored.symm.trans hstored'))

end ChatLists

/-! ## What events do to the positions -/

/-- The chat whose positions the event reports. -/
def ListEvent.about : ListEvent → Option ℤ
  | .chatPosition (some chatId) (some _) => some chatId
  | e => e.fullList.map Prod.fst

/-- All positions come, with the chat itself or for one that is stored. -/
def takePositions (isChat : Bool) (positions : List ChatPositionInfo) :
    Option (List ChatPositionInfo) → Option (List ChatPositionInfo)
  | some old => some (if positions ≠ [] then positions else old)
  | none => if isChat then some positions else none

/-- What an event about a chat makes of its positions. -/
def positionsAfter (stored : Option (List ChatPositionInfo)) : ListEvent → Option (List ChatPositionInfo)
  | .chatPosition (some _) (some position) => stored.map (mergePosition · position)
  | e => e.fullList.elim stored fun full => takePositions e.chat.isSome full.2 stored

lemma ListEvent.chat_of_fullList {e : ListEvent} {chatId : ℤ} {positions : List ChatPositionInfo}
    (h : e.fullList = some (chatId, positions)) : e.chat = some chatId ∨ e.chat = none := by
  rw [ListEvent.fullList.eq_def] at h
  split at h
  · exact .inr rfl
  · cases h
    exact .inl rfl
  · cases h
    exact .inl rfl
  · exact .inr rfl
  · cases h

namespace ChatLists

variable {P : Platform} {s s' : ChatLists} {e : ListEvent}

lemma positionsOf_eq (s : ChatLists) (chatId : ℤ) :
    s.positionsOf chatId = if s.hasChat chatId then some (s.listings chatId).positions else none := by
  rw [positionsOf, chatById, hasChat]
  cases s.manager.chatsById chatId with
  | none => rfl
  | some chat => rfl

lemma Takes.positionsOf_eq {chatId : ℤ} {positions : List ChatPositionInfo} {isChat : Bool}
    (h : Takes s s' chatId positions isChat) :
    (∀ i, i ≠ chatId → s'.positionsOf i = s.positionsOf i) ∧
      s'.positionsOf chatId = takePositions isChat positions (s.positionsOf chatId) := by
  constructor
  · intro i hi
    have hhas : s'.hasChat i = s.hasChat i := by
      rw [Bool.eq_iff_iff, h.hasChat i]
      simp [hi]
    rw [ChatLists.positionsOf_eq, ChatLists.positionsOf_eq, hhas, h.others i hi]
  · have hhas := h.hasChat chatId
    rw [ChatLists.positionsOf_eq, ChatLists.positionsOf_eq]
    by_cases hknown : s.hasChat chatId
    · rw [if_pos (hhas.mpr (.inr hknown)), if_pos hknown, h.known hknown]
      rfl
    · rw [if_neg hknown]
      by_cases hchat : isChat
      · rw [if_pos (hhas.mpr (.inl ⟨hchat, rfl⟩)), h.new hchat hknown]
        exact (if_pos hchat).symm
      · rw [if_neg fun hafter => (hhas.mp hafter).elim (fun hnew => hchat hnew.1) hknown]
        exact (if_neg hchat).symm

lemma Keeps.positionsOf_eq (h : Keeps s s') (i : ℤ) : s'.positionsOf i = s.positionsOf i := by
  rw [ChatLists.positionsOf_eq, ChatLists.positionsOf_eq, h.hasChat, h.listings]

lemma setListing_positionsOf (chatId : ℤ) (listing : Listing) (i : ℤ) :
    (s.setListing chatId listing).positionsOf i =
      if i = chatId then (s.positionsOf i).map fun _ => listing.positions else s.positionsOf i := by
  simp only [positionsOf, chatById, setListing, Option.map_map]
  split_ifs with hi
  · rw [hi, Function.update_self]
    rfl
  · rw [Function.update_of_ne hi]

lemma step_position_positionsOf (chatId : ℤ) (position : ChatPositionInfo) (i : ℤ) :
    (s.step P (.chatPosition (some chatId) (some position))).positionsOf i =
      if i = chatId then (s.positionsOf i).map (mergePosition · position) else s.positionsOf i := by
  simp only [step, handleUpdateChatPosition]
  by_cases hknown : s.hasChat chatId
  · rw [if_pos hknown, setListing_positionsOf]
    split_ifs with hi
    · rw [hi, ChatLists.positionsOf_eq, if_pos hknown]
      rfl
    · rfl
  · rw [if_neg hknown]
    have hsame : ({ s with manager := s.manager.send (.getChat chatId) } : ChatLists).positionsOf i =
        s.positionsOf i := rfl
    rw [hsame]
    split_ifs with hi
    · rw [hi, ChatLists.positionsOf_eq, if_neg hknown]
      rfl
    · rfl

/-- The positions of a chat are changed by the events about it, and only by them. -/
lemma step_positionsOf (s : ChatLists) (e : ListEvent) (i : ℤ) :
    (s.step P e).positionsOf i =
      if e.about == some i then positionsAfter (s.positionsOf i) e else s.positionsOf i := by
  cases hposition : e.isPosition with
  | true =>
      rw [ListEvent.isPosition.eq_def] at hposition
      split at hposition
      · rename_i chatId position
        rw [step_position_positionsOf, ListEvent.about]
        by_cases hi : i = chatId
        · simp [hi, positionsAfter]
        · simp [hi, Ne.symm hi]
      · cases hposition
  | false =>
      have habout : e.about = e.fullList.map Prod.fst := by
        rw [ListEvent.about.eq_def]
        split
        · cases hposition
        · rfl
      have hafter (stored : Option (List ChatPositionInfo)) : positionsAfter stored e =
          e.fullList.elim stored fun full => takePositions e.chat.isSome full.2 stored := by
        rw [positionsAfter.eq_def]
        split
        · cases hposition
        · rfl
      rw [habout, hafter]
      cases hfull : e.fullList with
      | none => exact (step_keeps hfull (by simp [hposition])).positionsOf_eq i
      | some full =>
          rcases full with ⟨chatId, positions⟩
          have htakes := step_takes (P := P) (s := s) hfull
          have hchat : e.chat = some chatId ↔ e.chat.isSome := by
            rcases ListEvent.chat_of_fullList hfull with h | h
            · simp [h]
            · simp [h]
          rw [propext hchat] at htakes
          by_cases hi : i = chatId
          · simpa [hi] using htakes.positionsOf_eq.2
          · simpa [Ne.symm hi] using htakes.positionsOf_eq.1 i hi

/-- So what a run makes of them depends on these events alone. -/
lemma run_positionsOf (s : ChatLists) (es : List ListEvent) (i : ℤ) :
    (es.foldl (step P) s).positionsOf i =
      (es.filter (·.about == some i)).foldl positionsAfter (s.positionsOf i) :=
  @foldl_view _ _ (step P) s _ (positionsOf · i) _ _ (fun s e => step_positionsOf s e i) es

end ChatLists

/-! ## Every chat under its id -/

namespace Manager

/-- The chats are stored under their ids. -/
def IdsMatch (m : Manager) : Prop := ∀ chatId chat, m.chatsById chatId = some chat → chat.id = chatId

variable {P : Platform} {m m' : Manager}

lemma IdsMatch.keeps (h : m.IdsMatch) (hkeeps : KeepsChats ChatSummary.id m m') : m'.IdsMatch := by
  intro chatId chat hchat
  have hid := hkeeps chatId
  rw [hchat, Option.map_some] at hid
  rcases Option.map_eq_some_iff.mp hid.symm with ⟨before, hbefore, heq⟩
  rw [← heq]
  exact h chatId before hbefore

lemma IdsMatch.setChat (h : m.IdsMatch) {chatId : ℤ} {chat : ChatSummary} (hid : chat.id = chatId) :
    (m.setChat chatId chat).IdsMatch := by
  intro i other hother
  simp only [Manager.setChat] at hother
  split_ifs at hother with hi
  · cases hother
    rw [hid, hi]
  · exact h i other hother

lemma enrichChatSummarySender_id (summary : ChatSummary) :
    (m.enrichChatSummarySender P summary).id = summary.id := by
  rw [enrichChatSummarySender]
  split_ifs
  · rfl
  · split
    · rfl
    · split_ifs
      · rfl
      · rfl

lemma IdsMatch.handleChat (h : m.IdsMatch) (raw : RawChat) : (m.handleChat P raw).IdsMatch := by
  have hparsed : (m.parseChat raw).id = raw.id := rfl
  have hmerged (summary : ChatSummary) (hid : summary.id = raw.id) :
      (mergeChat summary (m.chatsById summary.id)).id = raw.id := by
    rw [mergeChat.eq_def]
    split
    · exact hid
    · rename_i existing hexisting
      exact (h _ existing hexisting).trans hid
  have hsummary := (enrichChatSummarySender_id (P := P) (m := m) (m.parseChat raw)).trans hparsed
  rw [Manager.handleChat, upsertChat]
  simp only [hsummary]
  refine (h.setChat ?_).setChat ?_
  · have hchat := hmerged _ hsummary
    rwa [hsummary] at hchat
  · have hchat := hmerged _ hsummary
    rw [hsummary] at hchat
    rw [enrichChatSummarySender_id, hchat]

lemma handleChatLastMessage_keepsIds (chatId : Option ℤ) (lastMessage : Option RawMessage) :
    KeepsChats ChatSummary.id m (m.handleChatLastMessage P chatId lastMessage) := by
  rw [handleChatLastMessage.eq_def]
  split
  · exact keepsChats_of_chats rfl
  · split
    · exact keepsChats_of_chats rfl
    · refine setChat_keepsChats m ‹_› ?_
      rw [showLastMessage.eq_def]
      split
      · rfl
      · rfl

lemma handleUpdateChatReadOutbox_keepsIds (chatId lastRead : Option ℤ) :
    KeepsChats ChatSummary.id m (m.handleUpdateChatReadOutbox chatId lastRead) := by
  cases chatId with
  | none => exact keepsChats_of_chats rfl
  | some chatId =>
      have hset : KeepsChats ChatSummary.id m (m.setLastReadOutbox chatId (lastRead.getD 0)) :=
        keepsChats_of_chats rfl
      have hread : ∀ chat : ChatSummary, (if chat.lastMessageIsOutgoing &&
          chat.lastMessageDeliveryStatus.isSome && isSettled chat.lastMessageDeliveryStatus then
            { chat with lastMessageDeliveryStatus := some .read } else chat).id = chat.id := by
        intro chat
        split_ifs
        · rfl
        · rfl
      have hchat := hset.trans (updateChat_keepsChats _ (some chatId) hread)
      have hrefresh (n : Manager) : n.refreshDeliveryStatuses.chatsById = n.chatsById := by
        rw [refreshDeliveryStatuses]
        split
        · rfl
        · rfl
      simp only [handleUpdateChatReadOutbox]
      split_ifs
      · exact hchat.trans (keepsChats_of_chats (hrefresh _))
      · exact hchat

lemma updateChatPreview_keepsIds (message : ChatMessage) :
    KeepsChats ChatSummary.id m (m.updateChatPreview message) := by
  rw [updateChatPreview]
  split
  · exact keepsChats_of_chats rfl
  · rename_i chat hchat
    exact setChat_keepsChats m hchat rfl

lemma handleNewMessage_keepsIds (raw : RawMessage) : KeepsChats ChatSummary.id m (m.handleNewMessage P raw) := by
  by_cases hmatch : m.messageMatchesActiveForumTopic raw
  · have hinsert : KeepsChats ChatSummary.id m (m.insertMessage P (m.parseMessage P raw)) :=
      keepsChats_of_chats (insertMessage_chats P m _)
    exact (hinsert.trans (updateChatPreview_keepsIds _)).trans
      (keepsChats_of_chats (handleNewMessage_chats P m hmatch))
  · exact keepsChats_of_chats (congrArg chatsById (m.handleNewMessage_of_mismatch P hmatch))

lemma IdsMatch.step (h : m.IdsMatch) (e : Event) : (m.step P e).IdsMatch := by
  cases hchanges : e.changesChat with
  | false =>
      exact h.keeps (step_keepsChats hchanges (fun _ _ => rfl) (fun _ _ => rfl) (fun _ _ => rfl) fun _ _ => rfl)
  | true =>
      rw [Event.changesChat.eq_def] at hchanges
      split at hchanges
      · exact h.handleChat _
      · exact h.handleChat _
      · exact h.keeps (handleChatLastMessage_keepsIds _ _)
      · exact h.keeps (handleUpdateChatReadOutbox_keepsIds _ _)
      · exact h.keeps (handleNewMessage_keepsIds _)
      · cases hchanges

end Manager

namespace ChatLists

variable {P : Platform} {s : ChatLists}

lemma step_manager (e : Event) (listing : Listing) :
    (s.step P (.manager e listing)).manager = s.manager.step P e := by
  rw [ChatLists.step.eq_def]
  split
  · rename_i h
    cases h
  · rename_i h
    cases h
  · rename_i h
    cases h
  · rename_i h
    cases h
    rw [upsertChat]
    split_ifs
    · rfl
    · rfl
  · rename_i h
    cases h
    rw [upsertChat]
    split_ifs
    · rfl
    · rfl
  · rename_i chatId lastMessage _ h
    cases h
    cases chatId with
    | none => rfl
    | some chatId =>
        simp only [handleChatLastMessage]
        split_ifs
        · rfl
        · rfl
  · rename_i h
    cases h
    rfl

/-- The other events leave the chats of the manager alone. -/
lemma step_chatsById {e : ListEvent} (h : ∀ e' listing, e ≠ .manager e' listing) :
    (s.step P e).manager.chatsById = s.manager.chatsById := by
  cases e with
  | switchChatList list =>
      simp only [step, switchChatList]
      split_ifs
      · rfl
      · rfl
  | chatPosition chatId position =>
      cases chatId with
      | none => rfl
      | some chatId =>
          cases position with
          | none => rfl
          | some position =>
              simp only [step, handleUpdateChatPosition]
              split_ifs
              · rfl
              · rfl
  | chatDraftMessage chatId listing =>
      cases chatId with
      | none => rfl
      | some chatId =>
          simp only [step, handleUpdateChatDraftMessage]
          split_ifs
          · rfl
          · rfl
  | manager e' listing => exact absurd rfl (h e' listing)

lemma step_hasChat (e : ListEvent) (chatId : ℤ) :
    (s.step P e).hasChat chatId ↔ e.chat = some chatId ∨ s.hasChat chatId := by
  cases e with
  | manager e listing =>
      rw [hasChat, step_manager]
      exact step_hasChat_manager e listing chatId
  | switchChatList list =>
      rw [hasChat, step_chatsById fun _ _ => ListEvent.noConfusion]
      simp [ListEvent.chat, hasChat]
  | chatPosition id position =>
      rw [hasChat, step_chatsById fun _ _ => ListEvent.noConfusion]
      simp [ListEvent.chat, hasChat]
  | chatDraftMessage id listing =>
      rw [hasChat, step_chatsById fun _ _ => ListEvent.noConfusion]
      simp [ListEvent.chat, hasChat]

lemma upsertChat_chatIds (raw : RawChat) (listing : Listing) :
    (s.upsertChat P raw listing).chatIds = if s.hasChat raw.id then s.chatIds else s.chatIds ++ [raw.id] := by
  rw [upsertChat]
  split_ifs
  · rfl
  · rfl

lemma switchChatList_chatIds (list : ChatListKey) : (s.switchChatList list).chatIds = s.chatIds := by
  rw [switchChatList]
  split_ifs
  · rfl
  · rfl

lemma handleUpdateChatPosition_chatIds (chatId : Option ℤ) (position : Option ChatPositionInfo) :
    (s.handleUpdateChatPosition chatId position).chatIds = s.chatIds := by
  rw [handleUpdateChatPosition.eq_def]
  split
  · split_ifs
    · rfl
    · rfl
  · rfl

lemma handleUpdateChatDraftMessage_chatIds (chatId : Option ℤ) (listing : Listing) :
    (s.handleUpdateChatDraftMessage chatId listing).chatIds = s.chatIds := by
  rw [handleUpdateChatDraftMessage.eq_def]
  split
  · rfl
  · split_ifs
    · rfl
    · rfl

lemma handleChatLastMessage_chatIds (chatId : Option ℤ) (lastMessage : Option RawMessage)
    (positions : List ChatPositionInfo) :
    (s.handleChatLastMessage P chatId lastMessage positions).chatIds = s.chatIds := by
  cases chatId with
  | none => rfl
  | some chatId =>
      simp only [handleChatLastMessage]
      split_ifs
      · rfl
      · rfl

/-- Only a chat that is not stored is added. -/
lemma step_chatIds (e : ListEvent) :
    (s.step P e).chatIds = e.chat.elim s.chatIds fun chatId =>
      if s.hasChat chatId then s.chatIds else s.chatIds ++ [chatId] := by
  cases e with
  | switchChatList list => exact switchChatList_chatIds list
  | chatPosition chatId position => exact handleUpdateChatPosition_chatIds chatId position
  | chatDraftMessage chatId listing => exact handleUpdateChatDraftMessage_chatIds chatId listing
  | manager e listing =>
      cases e with
      | update update =>
          cases update with
          | newChat raw => exact upsertChat_chatIds raw listing
          | chat raw => exact upsertChat_chatIds raw listing
          | chatLastMessage chatId lastMessage => exact handleChatLastMessage_chatIds chatId lastMessage _
          | _ => rfl
      | _ => rfl

lemma Stored.step (h : s.Stored) (e : ListEvent) : (s.step P e).Stored := by
  have hids : (s.step P e).manager.IdsMatch := by
    have hbefore : s.manager.IdsMatch := h.ids
    by_cases hmanager : ∃ e' listing, e = .manager e' listing
    · rcases hmanager with ⟨e', listing, rfl⟩
      rw [step_manager]
      exact hbefore.step e'
    · push Not at hmanager
      intro chatId chat hchat
      rw [step_chatsById hmanager] at hchat
      exact hbefore chatId chat hchat
  have hchatIds := @step_chatIds P s e
  cases hchat : e.chat with
  | none =>
      rw [hchat] at hchatIds
      refine ⟨hchatIds ▸ h.nodup, fun chatId => ?_, hids⟩
      rw [hchatIds, step_hasChat, hchat]
      simpa using h.mem_chatIds chatId
  | some new =>
      rw [hchat, Option.elim_some] at hchatIds
      by_cases hknown : s.hasChat new
      · rw [if_pos hknown] at hchatIds
        refine ⟨hchatIds ▸ h.nodup, fun chatId => ?_, hids⟩
        rw [hchatIds, step_hasChat, hchat, h.mem_chatIds]
        refine ⟨.inr, fun hafter => hafter.elim (fun hnew => ?_) id⟩
        rwa [← Option.some_inj.mp hnew]
      · rw [if_neg hknown] at hchatIds
        refine ⟨?_, fun chatId => ?_, hids⟩
        · have hnew : new ∉ s.chatIds := fun hmem => hknown ((h.mem_chatIds new).mp hmem)
          rw [hchatIds]
          exact List.Nodup.append h.nodup (List.nodup_singleton _) (by simpa using hnew)
        · rw [hchatIds, step_hasChat, hchat, List.mem_append, List.mem_singleton, h.mem_chatIds, or_comm,
            Option.some_inj, eq_comm]

lemma stored_run (P : Platform) (es : List ListEvent) : (es.foldl (ChatLists.step P) {}).Stored := by
  have hstart : Stored {} := ⟨List.nodup_nil, by simp [hasChat], by simp⟩
  generalize ({} : ChatLists) = s at hstart
  induction es generalizing s with
  | nil => exact hstart
  | cons e es ih => exact ih _ (hstart.step e)

/-! ## The chats that are shown -/

/-- The comparison is a strict total order on chats with distinct ids. -/
structure OrdersChats (list : ChatListKey) : Prop where
  swap : ∀ a b, (compareInList a b list).swap = compareInList b a list
  ne_eq : ∀ a b : ListedChat, a.chat.id ≠ b.chat.id → compareInList a b list ≠ .eq
  trans : ∀ a b c, compareInList a b list = .lt → compareInList b c list = .lt → compareInList a c list = .lt

lemma ordersChats (list : ChatListKey) : OrdersChats list where
  swap a b := by rw [compareInList_eq, compareInList_eq, ← Std.OrientedOrd.eq_swap]
  ne_eq a b hid hcompare := by
    rw [compareInList_eq, compare_eq_iff_eq] at hcompare
    exact hid (id_of_sortKey hcompare)
  trans a b c hab hbc := by
    rw [eq_lt_iff] at hab hbc ⊢
    exact hab.trans hbc

/-- The chats of the active list that are not hidden are shown in its order, and any sort shows them so. -/
structure ShowsSorted (s : ChatLists) : Prop where
  mem : ∀ chat : ListedChat, chat ∈ s.visibleChats ↔
    s.chatById chat.chat.id = some chat ∧ chat.isInList s.activeChatList ∧ ¬s.shouldHideSponsoredChat chat
  sorted : s.visibleChats.Pairwise fun a b => compareInList a b s.activeChatList = .lt
  unique : ∀ chats : List ListedChat, chats.Perm s.visibleChats →
    (chats.Pairwise fun a b => (compareInList a b s.activeChatList).isLE) → chats = s.visibleChats

lemma Stored.showsSorted (h : s.Stored) : s.ShowsSorted where
  mem chat := by
    have hshows : s.showsWith chat.positions =
        (chat.isInList s.activeChatList && !s.shouldHideSponsoredChat chat) := rfl
    rw [s.visibleChats_perm.mem_iff, mem_shownChats h, hshows, Bool.and_eq_true, Bool.not_eq_true',
      Bool.not_eq_true]
  sorted := pairwise_lt_visibleChats h
  unique chats hperm := eq_visibleChats h (hperm.trans s.visibleChats_perm)

/-- **What the active list shows is determined by the chats and their positions**: the comparison is a strict total
order on chats with distinct ids, and in every state that a run reaches the chats of the active list that are not
hidden are shown in this order.  The same chats are shown as the same list; the same positions, or runs that
differ only in how the updates of different chats are interleaved, give the same chats in the same order. -/
theorem visibleChats_determined (P : Platform) :
    (∀ list, OrdersChats list) ∧
      ∀ es : List ListEvent, ShowsSorted (es.foldl (step P) {}) ∧
        ∀ es' : List ListEvent,
          let s := es.foldl (step P) {}
          let s' := es'.foldl (step P) {}
          s'.activeChatList = s.activeChatList →
          s'.manager.settings.shouldBlockAds = s.manager.settings.shouldBlockAds →
          ((∀ i, s'.chatById i = s.chatById i) → s'.visibleChats = s.visibleChats) ∧
          ((∀ i, s'.positionsOf i = s.positionsOf i) ∨
              (∀ i, es'.filter (·.about == some i) = es.filter (·.about == some i)) →
            s'.visibleChats.map (·.chat.id) = s.visibleChats.map (·.chat.id)) := by
  refine ⟨ordersChats, fun es => ⟨(stored_run P es).showsSorted, ?_⟩⟩
  intro es' s s' hlist hads
  have hs : s.Stored := stored_run P es
  have hs' : s'.Stored := stored_run P es'
  constructor
  · intro hchats
    refine hs.showsSorted.unique _ ?_ (hlist ▸ s'.pairwise_visibleChats)
    have hsorted := hs.showsSorted
    have hnodup (t : ChatLists) (ht : t.Stored) : t.visibleChats.Nodup :=
      (((t.visibleChats_perm.map _).nodup_iff).mpr (nodup_shownChats ht)).of_map
    refine (List.perm_ext_iff_of_nodup (hnodup s' hs') (hnodup s hs)).mpr fun chat => ?_
    rw [hs'.showsSorted.mem, hs.showsSorted.mem, hchats, hlist, shouldHideSponsoredChat, shouldHideSponsoredChat,
      hads]
  · intro hsame
    have hpositions : ∀ i, s'.positionsOf i = s.positionsOf i := by
      rcases hsame with hpositions | hupdates
      · exact hpositions
      · intro i
        rw [run_positionsOf, run_positionsOf, hupdates i]
    have hstandings := congrArg (List.map Prod.fst) (standings_visibleChats hs hs' hlist hads hpositions)
    rw [List.map_map, List.map_map] at hstandings
    exact hstandings

/-- Two chats come, and the second is pinned, before the first has come or after that. -/
theorem visibleChats_determined_pinned :
    let chat (id : ℤ) : ListEvent :=
      .manager (.update (.newChat { id, title := "Chat" })) { positions := [{ list := .main, order := 5 }] }
    let pins : ListEvent := .chatPosition (some 2) (some { list := .main, order := 3, isPinned := true })
    (([chat 2, pins, chat 1].foldl (step .plain) {}).visibleChats.map (·.chat.id)) =
      (([chat 1, chat 2, pins].foldl (step .plain) {}).visibleChats.map (·.chat.id)) := by
  intro chat pins
  refine (((visibleChats_determined .plain).2 [chat 1, chat 2, pins]).2 [chat 2, pins, chat 1] rfl rfl).2 (.inr ?_)
  intro i
  rcases eq_or_ne i 1 with rfl | hi
  · rfl
  · have hother : ((chat 1).about == some i) = false := beq_false_of_ne fun h => hi (Option.some_inj.mp h).symm
    simp only [List.filter, hother]

/-- **A chat of the active list that is not shown**: it is a sponsored one, and advertisements are blocked. -/
theorem sponsored_chat_hidden :
    let s := [.manager (.changeSettings { shouldBlockAds := true }) {},
      .manager (.update (.newChat { id := 1, title := "Chat" }))
        { positions := [{ list := .main, order := 5, source := .sponsored }] }].foldl (step .plain) {}
    (s.chatById 1).any (·.isInList s.activeChatList) ∧ s.visibleChats = [] := by
  decide +kernel

end ChatLists

end RioGram.Chats
