import RioGram.Chats.ChatInfo

/-!
# Who may post in a channel

Whether the user may post in the open channel is read off the information that was loaded of it, or off the
chat itself when there is none.  `PostingRun` has beside it the chats of which TDLib has told that the user
may post there.

* `posting_is_granted` says when posting is offered only in these.
* `posting_not_granted` is a run in which it is offered to a subscriber while the channel is loaded.
-/

namespace RioGram.Chats

open Asking Reaching

namespace ChatInfo

variable (s : ChatInfo)

/-- `_canPostInChannel`. -/
def canPostInChannel (chatId : ℤ) : Bool :=
  match s.chatInfoById chatId with
  | some info => if !info.isSubscribed then false else info.canSendInChannel
  | none => ((s.chatsById chatId).map (·.canSendMessages)).getD false

def canSendInActiveChat : Bool :=
  match s.activeChatId with
  | none => false
  | some chatId =>
      match s.chatsById chatId with
      | none => false
      | some chat => if chat.kind ≠ .channel then true else s.canPostInChannel chatId

end ChatInfo

/-! ## Runs -/

/-- The chat that TDLib tells the user may post in: its permissions allow it, or the status of the user. -/
def InfoEvent.grants : InfoEvent → Option ℤ
  | .chat raw => if raw.permissions.any (·.canSendBasicMessages) then some raw.id else none
  | .reply _ _ (.chat raw) => if raw.permissions.any (·.canSendBasicMessages) then some raw.id else none
  | .reply _ request (.supergroup status) =>
      if parseCanPostMessages status then some request.chatId else none
  | _ => none

structure PostingRun where
  run : ChatInfoRun := {}
  granted : ℤ → Bool := fun _ => false

namespace PostingRun

def step (r : PostingRun) (e : InfoEvent) : PostingRun where
  run := r.run.step e
  granted chatId := r.granted chatId || e.grants == some chatId

/-- A chat object that TDLib sends has the kind of the chat. -/
def TellsKind (isChannel : ℤ → Bool) : InfoEvent → Prop
  | .chat raw => ∀ summary, raw.parse = some summary → summary.kind = .channel → isChannel raw.id
  | .reply _ _ (.chat raw) => ∀ summary, raw.parse = some summary → summary.kind = .channel → isChannel raw.id
  | _ => True

/-- Posting is offered in the open channel only if TDLib has told that the user may post there. -/
def Safe (r : PostingRun) : Prop :=
  ∀ chatId, r.run.info.activeChatId = some chatId → r.run.info.isKnownChannel chatId →
    r.run.info.canSendInActiveChat → r.granted chatId

/-- A channel is loaded, or gets an invite link, only if the user is known to post there. -/
def Granted (isChannel : ℤ → Bool) (r : PostingRun) : InfoEvent → Prop
  | .loadChatInfo chatId => isChannel chatId → r.granted chatId
  | .openChat chatId => r.run.info.isKnownChannel chatId → r.granted chatId
  | .reply _ request (.chatInviteLink (some _)) => isChannel request.chatId → r.granted request.chatId
  | _ => True

end PostingRun

/-! ## What a reply does to the chats -/

/-- Only what is known of one chat is different. -/
structure SameElsewhere (chatId : ℤ) (s s' : ChatInfo) : Prop where
  infos : ∀ other, other ≠ chatId → s'.chatInfoById other = s.chatInfoById other
  chats : ∀ other, other ≠ chatId → s'.chatsById other = s.chatsById other

variable {s s' s'' : ChatInfo} {chatId : ℤ} {isChannel : ℤ → Bool}

lemma SameElsewhere.refl : SameElsewhere chatId s s := ⟨fun _ _ => rfl, fun _ _ => rfl⟩

lemma SameElsewhere.trans (h : SameElsewhere chatId s s') (h' : SameElsewhere chatId s' s'') :
    SameElsewhere chatId s s'' :=
  ⟨fun other hne => (h'.infos other hne).trans (h.infos other hne),
    fun other hne => (h'.chats other hne).trans (h.chats other hne)⟩

/-- The chats that are known to be channels are channels. -/
def KindsTold (isChannel : ℤ → Bool) (s : ChatInfo) : Prop :=
  ∀ chatId chat, s.chatsById chatId = some chat → chat.kind = .channel → isChannel chatId

namespace ChatInfo

lemma setChat_elsewhere (chat : InfoSummary) : SameElsewhere chatId s (s.setChat chatId chat) :=
  ⟨fun _ _ => rfl, fun _ hne => if_neg hne⟩

lemma mergeChatInfo_elsewhere (patch : ChatDetailInfo) :
    SameElsewhere chatId s (s.mergeChatInfo chatId patch) := by
  have hset : ∀ info, SameElsewhere chatId s (s.setInfo chatId info) :=
    fun info => ⟨fun _ hne => if_neg hne, fun _ _ => rfl⟩
  simp only [mergeChatInfo, syncChannelSummary]
  split
  · exact hset _
  · split_ifs
    · exact hset _
    · exact (hset _).trans (setChat_elsewhere _)

lemma upsertChat_elsewhere (summary : Option InfoSummary) :
    SameElsewhere chatId s (s.upsertChat chatId summary) := by
  rw [upsertChat.eq_def]
  split
  · exact .refl
  · split
    · exact setChat_elsewhere _
    · exact setChat_elsewhere _

/-- Counting changes nothing of the chats. -/
lemma completeChatInfoRequest_chats :
    s.completeChatInfoRequest.chatInfoById = s.chatInfoById ∧
      s.completeChatInfoRequest.chatsById = s.chatsById := by
  simp only [completeChatInfoRequest]
  split_ifs
  · exact ⟨rfl, rfl⟩
  · exact ⟨rfl, rfl⟩
  · exact ⟨rfl, rfl⟩

lemma continueChatInfoLoad_chats (chat : InfoSummary) :
    (s.continueChatInfoLoad chatId chat).chatInfoById = s.chatInfoById ∧
      (s.continueChatInfoLoad chatId chat).chatsById = s.chatsById := by
  simp only [continueChatInfoLoad]
  split_ifs
  · exact ⟨rfl, rfl⟩
  · exact ⟨rfl, rfl⟩
  · exact ⟨rfl, rfl⟩

lemma handleInfoChat_elsewhere (raw : RawInfoChat) :
    SameElsewhere chatId s (s.handleInfoChat chatId raw) := by
  have hmerged : SameElsewhere chatId s (s.mergeChatInfo chatId (parseChatForInfo raw)) :=
    mergeChatInfo_elsewhere _
  simp only [handleInfoChat]
  split
  case h_1 chat _ =>
    rcases @continueChatInfoLoad_chats (s.mergeChatInfo chatId (parseChatForInfo raw)) chatId chat with
      ⟨hinfos, hchats⟩
    have hcontinued : SameElsewhere chatId s
        ((s.mergeChatInfo chatId (parseChatForInfo raw)).continueChatInfoLoad chatId chat) :=
      ⟨fun other hne => by rw [hinfos, hmerged.infos other hne],
        fun other hne => by rw [hchats, hmerged.chats other hne]⟩
    exact hcontinued.trans (upsertChat_elsewhere _)
  case h_2 =>
    have hfinished : SameElsewhere chatId s
        (s.mergeChatInfo chatId (parseChatForInfo raw)).finishChatInfoLoad :=
      ⟨hmerged.infos, hmerged.chats⟩
    exact hfinished.trans (upsertChat_elsewhere _)

/-- What is counted after a change of the chat is different only there. -/
lemma completed_elsewhere (h : SameElsewhere chatId s s') :
    SameElsewhere chatId s s'.completeChatInfoRequest := by
  rcases completeChatInfoRequest_chats (s := s') with ⟨hinfos, hchats⟩
  exact ⟨fun other hne => by rw [hinfos, h.infos other hne],
    fun other hne => by rw [hchats, h.chats other hne]⟩

lemma handleReply_elsewhere (request : InfoRequest) (reply : InfoReply) :
    SameElsewhere request.chatId s (s.handleReply request reply) := by
  cases reply with
  | chat raw => exact handleInfoChat_elsewhere raw
  | basicGroupFullInfo => exact completed_elsewhere (mergeChatInfo_elsewhere _)
  | basicGroup status => exact completed_elsewhere (mergeChatInfo_elsewhere _)
  | supergroup status => exact completed_elsewhere (mergeChatInfo_elsewhere _)
  | supergroupFullInfo => exact completed_elsewhere (mergeChatInfo_elsewhere _)
  | chatMembers => exact completed_elsewhere .refl
  | user => exact completed_elsewhere .refl
  | chatInviteLink inviteLink =>
      simp only [handleReply]
      split_ifs
      · exact mergeChatInfo_elsewhere _
      · exact .refl
  | error message =>
      simp only [handleReply]
      split
      · exact completed_elsewhere .refl
      · exact completed_elsewhere ⟨fun _ _ => rfl, fun _ _ => rfl⟩

/-- Only the chat of a load asks for more, and that for the same chat. -/
lemma handleReply_asks {request : InfoRequest} {reply : InfoReply}
    (htitle : ∀ raw, reply = .chat raw → raw.title.isSome) {other : InfoRequest}
    (hmem : other ∈ (s.handleReply request reply).sent.drop s.sent.length) :
    other.chatId = request.chatId ∧ ∃ raw, reply = .chat raw := by
  have nothing : (s.handleReply request reply).sent = s.sent → False := by
    intro hsent
    rw [hsent, List.drop_length] at hmem
    cases hmem
  by_cases hchat : ∃ raw, reply = .chat raw
  · rcases hchat with ⟨raw, rfl⟩
    by_cases hloading : s.loadingChatInfoForChatId = some request.chatId
    · rcases handleInfoChat_continued hloading (htitle raw rfl) with ⟨requests, hrequests, hcontinued⟩
      rw [handleReply, hcontinued.sent, List.drop_left] at hmem
      exact ⟨(hrequests other hmem).1, raw, rfl⟩
    · exact (nothing (handleInfoChat_other hloading (htitle raw rfl)).sent).elim
  · by_cases hinvite : ∃ inviteLink, reply = .chatInviteLink inviteLink
    · rcases hinvite with ⟨inviteLink, rfl⟩
      exact (nothing (handleReply_inviteLink request inviteLink).sent).elim
    · have hcounted := handleReply_counted (s := s) request (fun raw heq => hchat ⟨raw, heq⟩)
        fun inviteLink heq => hinvite ⟨inviteLink, heq⟩
      exact (nothing hcounted.sent).elim

/-- A reply to the request for an invite link tells nothing of the chat if it brings no link. -/
lemma handleReply_noLink {request : InfoRequest} {reply : InfoReply} (htarget : request.target = .createInvite)
    (hgets : request.target.gets reply) (hlink : ∀ inviteLink, reply ≠ .chatInviteLink (some inviteLink)) :
    (s.handleReply request reply).chatInfoById = s.chatInfoById ∧
      (s.handleReply request reply).chatsById = s.chatsById := by
  rw [htarget] at hgets
  cases reply with
  | chatInviteLink inviteLink =>
      cases inviteLink with
      | none => exact ⟨rfl, rfl⟩
      | some inviteLink => exact absurd rfl (hlink inviteLink)
  | error message =>
      simp only [handleReply, htarget]
      exact completeChatInfoRequest_chats
  | _ => exact absurd hgets Bool.false_ne_true

/-- A chat that has come without the right to post is kept without it. -/
lemma upsertChat_canSend {raw : RawInfoChat} {permissions : ChatPermissionsInfo}
    (hpermissions : raw.permissions = some permissions) (hforbidden : ¬permissions.canSendBasicMessages)
    (htitle : raw.title.isSome) {chat : InfoSummary}
    (hchat : (s.upsertChat chatId raw.parse).chatsById chatId = some chat) : ¬chat.canSendMessages := by
  have hparse : ∀ summary, raw.parse = some summary → ¬summary.canSendMessages := by
    intro summary hsummary
    rw [RawInfoChat.parse, if_neg (Option.isSome_iff_ne_none.mp htitle), Option.some.injEq] at hsummary
    rw [← hsummary]
    split <;> simp [hpermissions, hforbidden]
  cases hsummary : raw.parse with
  | none => exact absurd hsummary (parse_of_title htitle none)
  | some summary =>
      have hforbidden := hparse summary hsummary
      rw [hsummary, upsertChat.eq_def] at hchat
      cases hknown : s.chatsById chatId with
      | none =>
          simp only [hknown, setChat, if_true, Option.some.injEq] at hchat
          rwa [← hchat]
      | some existing =>
          simp only [hknown, setChat, if_true, Option.some.injEq] at hchat
          rw [← hchat]
          exact hforbidden

/-! ## The kinds of the chats -/

lemma setChat_kinds (h : KindsTold isChannel s) {chat : InfoSummary}
    (hkind : chat.kind = .channel → isChannel chatId) : KindsTold isChannel (s.setChat chatId chat) := by
  intro other known hknown hchannel
  simp only [setChat] at hknown
  split_ifs at hknown with heq
  · obtain rfl := Option.some.inj hknown
    rw [heq]
    exact hkind hchannel
  · exact h other known hknown hchannel

lemma mergeChatInfo_kinds (h : KindsTold isChannel s) (patch : ChatDetailInfo) :
    KindsTold isChannel (s.mergeChatInfo chatId patch) := by
  simp only [mergeChatInfo, syncChannelSummary]
  split
  case h_1 => exact h
  case h_2 chat hchat =>
    split_ifs with hkind
    · exact h
    · rw [ne_eq, not_not] at hkind
      exact setChat_kinds (s := s.setInfo chatId _) h fun _ => h chatId chat hchat hkind

lemma upsertChat_kinds (h : KindsTold isChannel s) {summary : Option InfoSummary}
    (hkind : ∀ chat, summary = some chat → chat.kind = .channel → isChannel chatId) :
    KindsTold isChannel (s.upsertChat chatId summary) := by
  rw [upsertChat.eq_def]
  split
  · exact h
  · split
    · exact setChat_kinds h fun hchannel => hkind _ rfl hchannel
    · exact setChat_kinds h fun hchannel => hkind _ rfl hchannel

lemma handleReply_kinds (h : KindsTold isChannel s) {request : InfoRequest} {reply : InfoReply}
    (hkind : ∀ raw, reply = .chat raw → ∀ chat, raw.parse = some chat → chat.kind = .channel →
      isChannel request.chatId) : KindsTold isChannel (s.handleReply request reply) := by
  have of_chats : ∀ {s' : ChatInfo}, KindsTold isChannel s' →
      KindsTold isChannel s'.completeChatInfoRequest := fun h' => by
    rw [KindsTold, completeChatInfoRequest_chats.2]
    exact h'
  cases reply with
  | chat raw =>
      have hmerged : KindsTold isChannel (s.mergeChatInfo request.chatId (parseChatForInfo raw)) :=
        mergeChatInfo_kinds h _
      simp only [handleReply, handleInfoChat]
      split
      · refine upsertChat_kinds ?_ (hkind raw rfl)
        rw [KindsTold, (continueChatInfoLoad_chats _).2]
        exact hmerged
      · exact upsertChat_kinds (s := finishChatInfoLoad _) hmerged (hkind raw rfl)
  | basicGroupFullInfo => exact of_chats (mergeChatInfo_kinds h _)
  | basicGroup status => exact of_chats (mergeChatInfo_kinds h _)
  | supergroup status => exact of_chats (mergeChatInfo_kinds h _)
  | supergroupFullInfo => exact of_chats (mergeChatInfo_kinds h _)
  | chatMembers => exact of_chats h
  | user => exact of_chats h
  | chatInviteLink inviteLink =>
      simp only [handleReply]
      split_ifs
      · exact mergeChatInfo_kinds h _
      · exact h
  | error message =>
      simp only [handleReply]
      split
      · exact of_chats h
      · exact @of_chats { s with chatInfoError := _ } h

end ChatInfo

/-! ## What holds in every run -/

namespace PostingRun

variable {r : PostingRun} {e : InfoEvent}

/-- Of a channel where the user is not known to post nothing is known that allows it, and nothing has been
asked for but an invite link. -/
structure Informed (isChannel : ℤ → Bool) (r : PostingRun) : Prop where
  kinds : KindsTold isChannel r.run.info
  infos : ∀ chatId, isChannel chatId → ¬r.granted chatId → r.run.info.chatInfoById chatId = none
  chats : ∀ chatId, isChannel chatId → ¬r.granted chatId →
    ∀ chat, r.run.info.chatsById chatId = some chat → ¬chat.canSendMessages
  asked : ∀ request ∈ r.run.rounds.outstanding, isChannel request.2.chatId →
    ¬r.granted request.2.chatId → request.2.target = .createInvite

lemma Informed.safe (h : r.Informed isChannel) : r.Safe := by
  intro chatId hactive hknown hoffered
  rcases (Option.any_eq_true _ _).mp hknown with ⟨chat, hchat, hkind⟩
  have hkind : chat.kind = .channel := beq_iff_eq.mp hkind
  by_contra hgranted
  have hchannel := h.kinds chatId chat hchat hkind
  have hoff := h.chats chatId hchannel hgranted chat hchat
  simp [ChatInfo.canSendInActiveChat, ChatInfo.canPostInChannel, hactive, hchat, hkind,
    h.infos chatId hchannel hgranted, hoff] at hoffered

/-- What TDLib has told stays known. -/
lemma not_granted {chatId : ℤ} (h : ¬(r.step e).granted chatId) :
    ¬r.granted chatId ∧ e.grants ≠ some chatId := by
  simpa [step, not_or] using h

/-- An event after which less is known, and nothing more is asked for. -/
lemma Informed.forget (h : r.Informed isChannel)
    (hinfos : ∀ chatId, r.run.info.chatInfoById chatId = none →
      (r.step e).run.info.chatInfoById chatId = none)
    (hchats : (r.step e).run.info.chatsById = r.run.info.chatsById)
    (hasked : ∀ request ∈ (r.step e).run.rounds.outstanding,
      request ∈ r.run.rounds.outstanding ∨ request.2.target = .createInvite) :
    (r.step e).Informed isChannel := by
  refine ⟨?_, fun chatId hchannel hgranted => ?_, fun chatId hchannel hgranted => ?_,
    fun request hmem hchannel hgranted => ?_⟩
  · rw [KindsTold, hchats]
    exact h.kinds
  · exact hinfos chatId (h.infos chatId hchannel (not_granted hgranted).1)
  · rw [hchats]
    exact h.chats chatId hchannel (not_granted hgranted).1
  · rcases hasked request hmem with hold | hinvite
    · exact h.asked request hold hchannel (not_granted hgranted).1
    · exact hinvite

/-- A channel is loaded where the user is known to post. -/
lemma load_informed (h : r.Informed isChannel) {chatId : ℤ} (hgranted : isChannel chatId → r.granted chatId)
    (activeChatId : Option ℤ) (hrun : (r.step e).run =
      { r.run.load chatId with info := { (r.run.load chatId).info with activeChatId } }) :
    (r.step e).Informed isChannel := by
  have hother : ∀ other, isChannel other → ¬(r.step e).granted other → other ≠ chatId := by
    rintro other hchannel hnot rfl
    exact (not_granted hnot).1 (hgranted hchannel)
  refine ⟨?_, fun other hchannel hnot => ?_, fun other hchannel hnot => ?_,
    fun request hmem hchannel hnot => ?_⟩
  · rw [hrun]
    exact h.kinds
  · rw [hrun]
    exact (if_neg (hother other hchannel hnot)).trans (h.infos other hchannel (not_granted hnot).1)
  · rw [hrun]
    exact h.chats other hchannel (not_granted hnot).1
  · rw [hrun] at hmem
    rcases List.mem_append.mp hmem with hold | hnew
    · exact h.asked request hold hchannel (not_granted hnot).1
    · rw [List.map_singleton, List.mem_singleton] at hnew
      rw [hnew] at hchannel hnot
      exact absurd rfl (hother chatId hchannel hnot)

lemma chat_informed (h : r.Informed isChannel) {raw : RawInfoChat} (hserved : r.run.Served (.chat raw))
    (htells : TellsKind isChannel (.chat raw)) : (r.step (.chat raw)).Informed isChannel := by
  have helse : SameElsewhere raw.id r.run.info (r.run.info.handleChat raw) :=
    ChatInfo.upsertChat_elsewhere _
  have hinfos : (r.run.info.handleChat raw).chatInfoById = r.run.info.chatInfoById := by
    rw [ChatInfo.handleChat, ChatInfo.upsertChat.eq_def]
    split
    · rfl
    · split
      · rfl
      · rfl
  refine ⟨ChatInfo.upsertChat_kinds h.kinds htells, fun chatId hchannel hnot => ?_,
    fun chatId hchannel hnot chat hchat => ?_, fun request hmem hchannel hnot => ?_⟩
  · exact (congrFun hinfos chatId).trans (h.infos chatId hchannel (not_granted hnot).1)
  · by_cases hid : chatId = raw.id
    · subst hid
      -- its permissions are told, and they do not allow it
      rcases Option.isSome_iff_exists.mp hserved.2 with ⟨permissions, hpermissions⟩
      have hforbidden : ¬permissions.canSendBasicMessages := by
        intro hallowed
        exact (not_granted hnot).2 (by simp [InfoEvent.grants, hpermissions, hallowed])
      exact ChatInfo.upsertChat_canSend hpermissions hforbidden hserved.1 hchat
    · exact h.chats chatId hchannel (not_granted hnot).1 chat ((helse.chats chatId hid).symm.trans hchat)
  · exact h.asked request hmem hchannel (not_granted hnot).1

lemma reply_informed (h : r.Informed isChannel) {number : ℕ} {request : InfoRequest} {reply : InfoReply}
    (hserved : r.run.Served (.reply number request reply))
    (htells : TellsKind isChannel (.reply number request reply))
    (hgranted : r.Granted isChannel (.reply number request reply)) :
    (r.step (.reply number request reply)).Informed isChannel := by
  have helse : SameElsewhere request.chatId r.run.info (r.run.info.handleReply request reply) :=
    ChatInfo.handleReply_elsewhere request reply
  -- nothing of the chat is told if the user is not known to post there
  have hsame : isChannel request.chatId → ¬r.granted request.chatId →
      request.target = .createInvite ∧
      (r.run.info.handleReply request reply).chatInfoById = r.run.info.chatInfoById ∧
        (r.run.info.handleReply request reply).chatsById = r.run.info.chatsById := by
    intro hchannel hnot
    have htarget := h.asked _ hserved.1 hchannel hnot
    refine ⟨htarget, ChatInfo.handleReply_noLink htarget hserved.2.1 ?_⟩
    rintro inviteLink rfl
    exact hnot (hgranted hchannel)
  refine ⟨ChatInfo.handleReply_kinds h.kinds ?_, fun chatId hchannel hnot => ?_,
    fun chatId hchannel hnot => ?_, fun other hmem hchannel hnot => ?_⟩
  · rintro raw rfl
    have hid : raw.id = request.chatId := hserved.2.2.1
    rw [← hid]
    exact htells
  · have hbefore := h.infos chatId hchannel (not_granted hnot).1
    by_cases hid : chatId = request.chatId
    · subst hid
      exact (congrFun (hsame hchannel (not_granted hnot).1).2.1 _).trans hbefore
    · exact (helse.infos chatId hid).trans hbefore
  · have hbefore := h.chats chatId hchannel (not_granted hnot).1
    by_cases hid : chatId = request.chatId
    · subst hid
      exact fun chat hchat => hbefore chat
        ((congrFun (hsame hchannel (not_granted hnot).1).2.2 _).symm.trans hchat)
    · exact fun chat hchat => hbefore chat ((helse.chats chatId hid).symm.trans hchat)
  · rcases List.mem_append.mp hmem with hold | hnew
    · exact h.asked other (List.mem_of_mem_erase hold) hchannel (not_granted hnot).1
    · rcases List.mem_map.mp hnew with ⟨asked, hasked, rfl⟩
      have htitle : ∀ raw, reply = .chat raw → raw.title.isSome := by
        rintro raw rfl
        exact hserved.2.2.2.1
      rcases ChatInfo.handleReply_asks htitle hasked with ⟨hid, raw, rfl⟩
      simp only [hid] at hchannel hnot
      have hgets := hserved.2.1
      rw [(hsame hchannel (not_granted hnot).1).1] at hgets
      exact absurd hgets Bool.false_ne_true

lemma step_informed (h : r.Informed isChannel) (e : InfoEvent) (hserved : r.run.Served e)
    (htells : TellsKind isChannel e) (hgranted : r.Granted isChannel e) :
    (r.step e).Informed isChannel := by
  cases e with
  | loadChatInfo chatId => exact load_informed h hgranted r.run.info.activeChatId rfl
  | clearChatInfo chatId =>
      refine h.forget (fun other hnone => ?_) ?_ fun request hmem => .inl hmem
      · simp only [step, ChatInfoRun.step, ChatInfo.clearChatInfo]
        split_ifs <;> simp [ChatInfo.setInfo, hnone]
      · simp only [step, ChatInfoRun.step, ChatInfo.clearChatInfo]
        split_ifs <;> rfl
  | openChat chatId =>
      by_cases hknown : r.run.info.isKnownChannel chatId
      · refine load_informed h (fun _ => hgranted hknown) (some chatId) ?_
        have hopened : ({ r.run.info with activeChatId := some chatId } : ChatInfo).isKnownChannel chatId :=
          hknown
        simp only [step, ChatInfoRun.step, if_pos hknown, ChatInfo.openChat, if_pos hopened]
        rfl
      · have hopened : r.run.info.openChat chatId = { r.run.info with activeChatId := some chatId } :=
          if_neg hknown
        refine h.forget (fun other hnone => ?_) ?_ fun request hmem => .inl ?_
        · simp only [step, ChatInfoRun.step, hopened]
          exact hnone
        · simp only [step, ChatInfoRun.step, hopened]
        · simpa only [step, ChatInfoRun.step, if_neg hknown] using hmem
  | closeChat => exact h.forget (fun _ hnone => hnone) rfl fun request hmem => .inl hmem
  | createPrimaryInviteLink chatId =>
      refine h.forget (fun _ hnone => hnone) rfl fun request hmem => ?_
      rcases List.mem_append.mp hmem with hold | hnew
      · exact .inl hold
      · rw [List.map_singleton, List.mem_singleton] at hnew
        exact .inr (by rw [hnew])
  | chat raw => exact chat_informed h hserved htells
  | reply number request reply => exact reply_informed h hserved htells hgranted

/-- **Posting is offered only where TDLib has told that the user may post**, in every state of every run in
which no channel is loaded before that. -/
theorem posting_is_granted (isChannel : ℤ → Bool) (r : PostingRun)
    (h : Reachable step (fun r e => (r.run.Served e ∧ TellsKind isChannel e) ∧ r.Granted isChannel e) {} r) :
    r.Safe := by
  have hinformed : r.Informed isChannel := by
    refine h.invariant (I := Informed isChannel) ?_ ?_
    · refine ⟨fun _ _ hchat => absurd hchat (Option.some_ne_none _).symm, fun _ _ _ => rfl,
        fun _ _ _ _ hchat => absurd hchat (Option.some_ne_none _).symm, fun _ hmem => ?_⟩
      cases hmem
    · intro r e hr he
      exact step_informed hr e he.1.1 he.1.2 he.2
  exact hinformed.safe

/-- A channel. -/
def newsChannel (canSendBasicMessages : Bool) : RawInfoChat :=
  { id := 7, type := .supergroup 7 true, permissions := some ⟨canSendBasicMessages⟩ }

/-- A channel where everyone may post is opened. -/
theorem posting_is_granted_everyone :
    ([InfoEvent.chat (newsChannel true), .openChat 7].foldl step {}).Safe := by
  refine posting_is_granted (· == 7) _
    (Reachable.start.run ⟨⟨⟨⟨rfl, rfl⟩, ?_⟩, trivial⟩, ⟨⟨trivial, trivial⟩, ?_⟩, trivial⟩)
  · exact fun _ _ _ => rfl
  · exact fun _ => rfl

/-- **A subscriber is offered to post while the channel is loaded, and after it has failed to load.** -/
theorem posting_not_granted :
    (∃ r, Reachable step (fun r e => r.run.Served e ∧ TellsKind (· == 7) e) {} r ∧
      r.run.info.canSendInActiveChat ∧ r.run.info.isLoadingChatInfo ∧ r.granted 7 = false ∧ ¬r.Safe) ∧
    ∃ r, Reachable step (fun r e => r.run.Served e ∧ TellsKind (· == 7) e) {} r ∧
      r.run.info.canSendInActiveChat ∧ r.run.rounds.outstanding = [] ∧ r.granted 7 = false ∧ ¬r.Safe := by
  constructor
  · have hreach : Reachable step (fun r e => r.run.Served e ∧ TellsKind (· == 7) e) {}
        ([InfoEvent.chat (newsChannel false), .openChat 7].foldl step {}) :=
      Reachable.start.run ⟨⟨⟨rfl, rfl⟩, fun _ _ _ => rfl⟩, ⟨trivial, trivial⟩, trivial⟩
    refine ⟨_, hreach, by decide, by decide, by decide, fun h => ?_⟩
    exact absurd (h 7 (by decide) (by decide) (by decide)) (by decide)
  · have hreach : Reachable step (fun r e => r.run.Served e ∧ TellsKind (· == 7) e) {}
        ([InfoEvent.chat (newsChannel false), .openChat 7, .reply 1 ⟨7, .chat⟩ (.error none)].foldl step {}) :=
      Reachable.start.run ⟨⟨⟨rfl, rfl⟩, fun _ _ _ => rfl⟩, ⟨trivial, trivial⟩,
        ⟨⟨by decide, rfl, trivial⟩, trivial⟩, trivial⟩
    refine ⟨_, hreach, by decide, by decide, by decide, fun h => ?_⟩
    exact absurd (h 7 (by decide) (by decide) (by decide)) (by decide)

end PostingRun

end RioGram.Chats
