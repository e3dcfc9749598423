import RioGram.Core.Overlay
import RioGram.Dart.Uri
import RioGram.Settings.Requests

/-!
# Groups in common

`ProfileManager` asks for the groups that it has in common with a user, and then for each of them to have its title.
For which user and chat an answer is, it reads from the extra.  Of the chats it keeps those with positive numbers,
which groups and channels do not have.

* `Complete` — the chats of a user are those of the answer, with the titles that have come.
* `commonChats_complete_iff` says for which answers it is so, `groups_are_dropped` has one for which it is not.
-/

namespace RioGram.Profiles

open Dart Js PartialMap Secret.SecretChatManager Settings

/-! ## The manager -/

structure CommonChatSummary where
  id : ℤ
  title : Str
deriving DecidableEq

def parseCommonChats (chatIds : List ℤ) : List CommonChatSummary :=
  (chatIds.filter (0 < ·)).map fun id => { id, title := units "Чат " ++ intToString id }

/-- The part of the manager that is about groups in common. -/
structure CommonChats where
  commonChatsByUserId : ℤ → Option (List CommonChatSummary) := PartialMap.empty
  loadingCommonChats : Finset ℤ := ∅
  sent : List ProfileRequest := []

/-- An answer to one of its requests. -/
inductive CommonChatsReply where
  | chats (userId : Int64) (chatIds : List Int64)
  | chat (userId chatId : Int64) (title : Str)

namespace CommonChats

variable (m : CommonChats)

def commonChatsFor (userId : ℤ) : List CommonChatSummary := (m.commonChatsByUserId userId).getD []

def handleChats (extra : Option Str) (chatIds : List ℤ) : CommonChats :=
  if !begins extra "profile_common_" then m
  else
    match tryParseInt ((extra.getD []).drop (ascii "profile_common_").length) with
    | none => m
    | some userId =>
        let chats := parseCommonChats chatIds
        { m with
          commonChatsByUserId := put userId chats m.commonChatsByUserId
          loadingCommonChats := m.loadingCommonChats.erase userId
          sent := m.sent ++ chats.map fun chat => .commonChat userId chat.id }

def handleChat (extra title : Option Str) : CommonChats :=
  if !begins extra "profile_common_chat_" then m
  else
    let parts := (extra.getD []).splitOn 95
    if parts.length < 5 then m
    else
      match tryParseInt (parts.getD 3 []), tryParseInt (parts.getD 4 []), title with
      | some userId, some chatId, some title =>
          match m.commonChatsByUserId userId with
          | none => m
          | some list =>
              let list := list.map fun chat => if chat.id = chatId then { id := chat.id, title } else chat
              { m with commonChatsByUserId := put userId list m.commonChatsByUserId }
      | _, _, _ => m

/-- The answer comes with the extra of its request. -/
def step (m : CommonChats) : CommonChatsReply → CommonChats
  | .chats userId chatIds =>
      m.handleChats (some (ProfileRequest.common userId.toInt).extra) (chatIds.map Int64.toInt)
  | .chat userId chatId title =>
      m.handleChat (some (ProfileRequest.commonChat userId.toInt chatId.toInt).extra) (some title)

end CommonChats

/-! ## What the answers say -/

/-- The title that an answer has for a chat, asked for because of a user. -/
def CommonChatsReply.titleFor (userId chatId : ℤ) : CommonChatsReply → Option Str
  | chats _ _ => none
  | chat userId' chatId' title => if userId'.toInt = userId ∧ chatId'.toInt = chatId then some title else none

/-- The title that came last. -/
def lastTitle (userId chatId : ℤ) (replies : List CommonChatsReply) : Option Str :=
  (replies.filterMap (·.titleFor userId chatId)).getLast?

/-- The chats of a user are those of the answer about the user, and those about which an answer came after it have
their titles. -/
structure CommonChats.Complete (m : CommonChats) (userId : Int64) (chatIds : List Int64)
    (replies : List CommonChatsReply) : Prop where
  ids : ((replies.foldl step (m.step (.chats userId chatIds))).commonChatsFor userId.toInt).map (·.id) =
    chatIds.map Int64.toInt
  titles : ∀ chat ∈ (replies.foldl step (m.step (.chats userId chatIds))).commonChatsFor userId.toInt,
    ∀ title, lastTitle userId.toInt chat.id replies = some title → chat.title = title

lemma lastTitle_cons (userId chatId : ℤ) (reply : CommonChatsReply) (replies : List CommonChatsReply) :
    lastTitle userId chatId (reply :: replies) =
      (lastTitle userId chatId replies).or (reply.titleFor userId chatId) := by
  rw [lastTitle, lastTitle, List.filterMap_cons]
  cases reply.titleFor userId chatId with
  | none => simp
  | some title => simp [List.getLast?_cons]

/-! ## Extras -/

lemma begins_append (start : String) (rest : Str) : begins (some (ascii start ++ rest)) start :=
  List.isPrefixOf_iff_prefix.mpr (List.prefix_append _ _)

/-- No number has a line in it. -/
lemma line_notMem_intToString (i : ℤ) : 95 ∉ intToString i := by
  intro h
  rw [intToString, List.mem_append] at h
  rcases h with h | h
  · split_ifs at h
    · exact absurd h (by decide)
    · cases h
  · have hdigits : 95 ∈ intToString (i.natAbs : ℤ) := by
      rw [intToString_natCast]
      exact h
    exact absurd (isDecimal_of_mem hdigits) (by decide)

/-- The parts of the extra of a chat. -/
lemma splitOn_commonChat (userId chatId : ℤ) :
    (ProfileRequest.commonChat userId chatId).extra.splitOn 95 =
      [ascii "profile", ascii "common", ascii "chat", intToString userId, intToString chatId] := by
  have hstart : ascii "profile_common_chat_" =
      ascii "profile" ++ [95] ++ ascii "common" ++ [95] ++ ascii "chat" ++ [95] := by decide
  have hline : ascii "_" = [95] := by decide
  have hparts : (ProfileRequest.commonChat userId chatId).extra = [95].intercalate
      [ascii "profile", ascii "common", ascii "chat", intToString userId, intToString chatId] := by
    simp [ProfileRequest.extra, hstart, hline, List.intercalate]
  rw [hparts]
  refine List.splitOn_intercalate 95 ?_ (List.cons_ne_nil _ _)
  simp only [List.forall_mem_cons]
  exact ⟨by decide, by decide, by decide, line_notMem_intToString userId, line_notMem_intToString chatId, by simp⟩

namespace CommonChats

variable {m : CommonChats} {userId chatId : Int64} {chatIds : List Int64} {title : Str}

/-- The answer about a user is kept for this user. -/
lemma commonChats_step_chats (k : ℤ) : (m.step (.chats userId chatIds)).commonChatsByUserId k =
    if k = userId.toInt then some (parseCommonChats (chatIds.map Int64.toInt)) else m.commonChatsByUserId k := by
  have hextra : (ProfileRequest.common userId.toInt).extra =
      ascii "profile_common_" ++ intToString userId.toInt := rfl
  rw [step, handleChats, hextra, begins_append, Bool.not_true, if_neg Bool.false_ne_true, Option.getD_some,
    List.drop_left, tryParseInt_toInt]
  exact put_apply _ _ _ _

/-- An answer about a chat gives it the title, in the list of the user because of whom it was asked for. -/
lemma commonChats_step_chat (k : ℤ) : (m.step (.chat userId chatId title)).commonChatsByUserId k =
    if k = userId.toInt then (m.commonChatsByUserId k).map fun list =>
      list.map fun chat => if chat.id = chatId.toInt then { id := chat.id, title } else chat
    else m.commonChatsByUserId k := by
  have hextra : (ProfileRequest.commonChat userId.toInt chatId.toInt).extra = ascii "profile_common_chat_" ++
      (intToString userId.toInt ++ ascii "_" ++ intToString chatId.toInt) := rfl
  have hbegins : begins (some (ProfileRequest.commonChat userId.toInt chatId.toInt).extra) "profile_common_chat_" := by
    rw [hextra]
    exact begins_append _ _
  rw [step, handleChat, hbegins, Bool.not_true, if_neg Bool.false_ne_true, Option.getD_some, splitOn_commonChat]
  have huser := tryParseInt_toInt userId
  have hchat := tryParseInt_toInt chatId
  simp only [List.length_cons, List.length_nil, List.getD_cons_succ, List.getD_cons_zero, huser, hchat]
  rw [if_neg (by decide)]
  cases hlist : m.commonChatsByUserId userId.toInt with
  | none =>
      split_ifs with hk
      · rw [hk, hlist]
        rfl
      · rfl
  | some list =>
      simp only [put_apply]
      split_ifs with hk
      · rw [hk, hlist]
        rfl
      · rfl

/-- The list with the titles that have come. -/
def titled (userId : ℤ) (replies : List CommonChatsReply) (list : List CommonChatSummary) : List CommonChatSummary :=
  list.map fun chat => { chat with title := (lastTitle userId chat.id replies).getD chat.title }

lemma titled_nil (userId : ℤ) (list : List CommonChatSummary) : titled userId [] list = list := List.map_id list

/-- One answer after the other. -/
lemma titled_cons (userId : ℤ) (reply : CommonChatsReply) (replies : List CommonChatsReply)
    (list : List CommonChatSummary) :
    titled userId (reply :: replies) list = titled userId replies (titled userId [reply] list) := by
  rw [titled, titled, titled, List.map_map]
  refine List.map_congr_left fun chat _ => ?_
  simp only [Function.comp_apply, lastTitle_cons]
  cases lastTitle userId chat.id replies <;> rfl

/-- An answer without a title for the user changes nothing. -/
lemma titled_of_none {k : ℤ} {reply : CommonChatsReply} (h : ∀ id, reply.titleFor k id = none) :
    titled k [reply] = id := by
  funext list
  rw [titled]
  simp only [lastTitle_cons, h]
  exact List.map_id list

lemma commonChats_step {reply : CommonChatsReply} (h : ∀ chatIds, reply ≠ .chats userId chatIds) :
    (m.step reply).commonChatsByUserId userId.toInt =
      (m.commonChatsByUserId userId.toInt).map (titled userId.toInt [reply]) := by
  cases reply with
  | chats other chatIds =>
      have hother : userId.toInt ≠ other.toInt := by
        intro heq
        rw [Int64.toInt_inj.mp heq] at h
        exact h chatIds rfl
      rw [commonChats_step_chats, if_neg hother, titled_of_none fun _ => rfl, Option.map_id_fun]
      rfl
  | chat other chatId title =>
      rw [commonChats_step_chat]
      split_ifs with huser
      · congr 1
        funext list
        refine List.map_congr_left fun chat _ => ?_
        simp only [lastTitle_cons, CommonChatsReply.titleFor, huser, true_and]
        by_cases hchat : chat.id = chatId.toInt
        · rw [if_pos hchat, if_pos hchat.symm]
          rfl
        · rw [if_neg hchat, if_neg (Ne.symm hchat)]
          rfl
      · have hnone : ∀ id, (CommonChatsReply.chat other chatId title).titleFor userId.toInt id = none :=
          fun id => if_neg fun hboth => huser hboth.1.symm
        rw [titled_of_none hnone, Option.map_id_fun]
        rfl

/-- **What the answers after that about a user make of the list**: the titles that came last. -/
lemma commonChats_run {replies : List CommonChatsReply}
    (h : ∀ reply ∈ replies, ∀ chatIds, reply ≠ .chats userId chatIds) :
    (replies.foldl step m).commonChatsByUserId userId.toInt =
      (m.commonChatsByUserId userId.toInt).map (titled userId.toInt replies) := by
  induction replies generalizing m with
  | nil =>
      have hid : titled userId.toInt [] = id := funext (titled_nil userId.toInt)
      rw [hid, Option.map_id_fun]
      rfl
  | cons reply replies ih =>
      rw [List.forall_mem_cons] at h
      rw [List.foldl_cons, ih h.2, commonChats_step h.1, Option.map_map]
      exact congrArg (Option.map · _) (funext fun list => (titled_cons _ _ _ list).symm)

/-- What is shown of the answer, and of those after it. -/
lemma commonChatsFor_run {replies : List CommonChatsReply}
    (h : ∀ reply ∈ replies, ∀ chatIds, reply ≠ .chats userId chatIds) :
    (replies.foldl step (m.step (.chats userId chatIds))).commonChatsFor userId.toInt =
      titled userId.toInt replies (parseCommonChats (chatIds.map Int64.toInt)) := by
  rw [commonChatsFor, commonChats_run h, commonChats_step_chats, if_pos rfl]
  rfl

/-- **When the groups in common are complete**: the chats of the answer all have positive numbers.  The other answers
come in any order, and are about any users. -/
theorem commonChats_complete_iff (m : CommonChats) (userId : Int64) (chatIds : List Int64)
    (replies : List CommonChatsReply) (h : ∀ reply ∈ replies, ∀ chatIds, reply ≠ .chats userId chatIds) :
    m.Complete userId chatIds replies ↔ ∀ chatId ∈ chatIds, 0 < chatId.toInt := by
  have hids (list : List CommonChatSummary) : (titled userId.toInt replies list).map (·.id) = list.map (·.id) := by
    rw [titled, List.map_map]
    rfl
  have hparsed (ids : List ℤ) : (parseCommonChats ids).map (·.id) = ids.filter (0 < ·) := by
    rw [parseCommonChats, List.map_map]
    exact List.map_id _
  have hfilter : (chatIds.map Int64.toInt).filter (0 < ·) = chatIds.map Int64.toInt ↔
      ∀ chatId ∈ chatIds, 0 < chatId.toInt := by
    simp [List.filter_eq_self]
  rw [← hfilter]
  constructor
  · intro hcomplete
    have hall := hcomplete.ids
    rwa [commonChatsFor_run h, hids, hparsed] at hall
  · intro hall
    refine ⟨?_, ?_⟩
    · rw [commonChatsFor_run h, hids, hparsed, hall]
    · intro chat hchat title htitle
      rw [commonChatsFor_run h] at hchat
      rcases List.mem_map.mp hchat with ⟨before, -, rfl⟩
      rw [htitle]
      rfl

theorem complete_positive :
    (∀ reply ∈ [CommonChatsReply.chat 6 7 (units "Б"), .chat 5 7 (units "А")], ∀ chatIds, reply ≠ .chats 5 chatIds) ∧
      Complete {} 5 [7] [.chat 6 7 (units "Б"), .chat 5 7 (units "А")] := by
  have hother : ∀ reply ∈ [CommonChatsReply.chat 6 7 (units "Б"), .chat 5 7 (units "А")], ∀ chatIds,
      reply ≠ .chats 5 chatIds := by
    simp
  exact ⟨hother, (commonChats_complete_iff {} 5 [7] _ hother).mpr (List.forall_mem_singleton.mpr (by decide))⟩

/-- A group that the user and the app are in is not shown, nor is it asked for. -/
theorem groups_are_dropped :
    let m := step {} (.chats 5 [-1001234567890])
    m.commonChatsFor 5 = [] ∧ m.sent = [] ∧ ¬Complete {} 5 [-1001234567890] [] := by
  refine ⟨by decide +kernel, by decide +kernel, fun h => ?_⟩
  exact absurd h.ids (by decide +kernel)

end CommonChats

end RioGram.Profiles
