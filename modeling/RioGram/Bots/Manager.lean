import RioGram.Core.Quoted
import RioGram.Core.Reachable
import RioGram.Js.Strings

/-!
# Inline bots and Mini Apps

`BotManager` asks a bot for results while the user writes, and opens Mini Apps; what it does for callback buttons,
commands and custom requests is left out.  `ChatScreen` takes a url that is pending and opens a screen for it, from
which the Mini App sends its data.

`BotRun` has beside the manager what the user wants: the latest query of the composer, and the calls that were made for
the requests, the results, the url and the screens.

* `BotRun.IsPaired` — what is shown and what is pending belong to the query and the call that they are for.
* `pairs_of_meets` — the runs in which it is so.
-/

namespace RioGram.Bots

open Js Quoted Reaching

structure InlineQueryResultModel where
  id : Str
  title : Str
  description : Str := []
  preview : Str := []
deriving DecidableEq

structure InlineQueryState where
  botUserId : Option ℤ := none
  botUsername : Str := []
  query : Str := []
  results : List InlineQueryResultModel := []
  queryId : ℤ := 0
  isLoading : Bool := false
  error : Option Str := none
deriving DecidableEq

def InlineQueryState.isActive (s : InlineQueryState) : Bool := s.botUserId.isSome && !s.query.isEmpty

/-- Where the screen of the chat shows the results. -/
def InlineQueryState.isShown (s : InlineQueryState) : Bool :=
  s.queryId ≠ 0 && s.isActive && !s.isLoading && !s.results.isEmpty

/-- The username and the query in the text of the composer. -/
def parseInlineComposerQuery (text : Str) : Option (Str × Str) :=
  let trimmed := trimDart text
  if !(ascii "@").isPrefixOf trimmed then none
  else
    match indexOf trimmed (ascii " ") with
    | none => none
    | some space =>
        if space ≤ 1 then none
        else if (substring trimmed 1 space).isEmpty then none
        else some (substring trimmed 1 space, trimDart (trimmed.drop (space + 1)))

inductive BotRequest where
  | searchPublicChat (username : Str)
  | getInlineQueryResults (botUserId chatId : ℤ) (query : Str) (requestId : ℕ)
  | sendInlineQueryResultMessage (chatId queryId : ℤ) (resultId : Str)
  | openWebApp (chatId botUserId : ℤ) (url : Str)
  | sendWebAppData (botUserId : ℤ) (buttonText data : Str)
deriving DecidableEq

/-- What an `openWebApp` call is for. -/
structure WebAppCall where
  botUserId : ℤ
  chatId : ℤ
  buttonText : Str
deriving DecidableEq

structure BotManager where
  usernameToUserId : Str → Option ℤ := fun _ => none
  inlineQueryState : InlineQueryState := {}
  pendingInlineChatId : ℤ := 0
  lastError : Option Str := none
  inlineRequestId : ℕ := 0
  pendingWebAppLaunchId : Option ℤ := none
  pendingWebAppUrl : Option Str := none
  pendingWebAppButtonText : Str := []
  pendingWebAppBotUserId : Option ℤ := none
  pendingWebAppChatId : Option ℤ := none
  sent : List BotRequest := []

namespace BotManager

variable (toLowerCase : Str → Str) (m : BotManager)

def send (request : BotRequest) : BotManager := { m with sent := m.sent ++ [request] }

def registerUsername (username : Str) (userId : ℤ) : BotManager :=
  if username.isEmpty then m
  else { m with usernameToUserId := Function.update m.usernameToUserId (toLowerCase username) (some userId) }

/-! ## Inline queries -/

def resolveBotUsername (username : Str) (chatId : ℤ) (query : Str) : BotManager :=
  { m with
    pendingInlineChatId := chatId
    inlineQueryState := { botUsername := username, query := query, isLoading := true } }.send
    (.searchPublicChat username)

def performInlineQuery (botUserId : ℤ) (botUsername : Str) (chatId : ℤ) (query : Str) : BotManager :=
  { m with
    inlineRequestId := m.inlineRequestId + 1
    inlineQueryState := { botUserId := some botUserId, botUsername, query, isLoading := true } }.send
    (.getInlineQueryResults botUserId chatId query (m.inlineRequestId + 1))

def clearInlineQuery : BotManager := { m with inlineQueryState := {} }

def handleComposerText (text : Str) (chatId : ℤ) : BotManager :=
  match parseInlineComposerQuery text with
  | none => if m.inlineQueryState.isActive then m.clearInlineQuery else m
  | some (username, query) =>
      match m.usernameToUserId (toLowerCase username) with
      | none => m.resolveBotUsername username chatId query
      | some botUserId => m.performInlineQuery botUserId username chatId query

def sendInlineResult (chatId queryId : ℤ) (resultId : Str) : BotManager :=
  (m.send (.sendInlineQueryResultMessage chatId queryId resultId)).clearInlineQuery

def handleResolvedBotChat (username : Str) (userId : Option ℤ) : BotManager :=
  match userId with
  | none =>
      { m with
        inlineQueryState :=
          { botUsername := username
            query := m.inlineQueryState.query
            error := some (units "Бот @" ++ (username ++ units " не найден")) } }
  | some userId =>
      (m.registerUsername toLowerCase username userId).performInlineQuery userId username m.pendingInlineChatId
        m.inlineQueryState.query

def handleInlineQueryResults (results : List InlineQueryResultModel) (queryId : ℤ) : BotManager :=
  { m with
    inlineQueryState :=
      { m.inlineQueryState with
        results := results
        queryId := queryId
        isLoading := false
        error := if results.isEmpty then some (units "Нет результатов") else none } }

/-! ## Mini Apps -/

def openWebApp (chatId botUserId : ℤ) (url buttonText : Str) : BotManager :=
  if url.isEmpty then m
  else
    { m with
      pendingWebAppButtonText := buttonText
      pendingWebAppBotUserId := some botUserId
      pendingWebAppChatId := some chatId }.send (.openWebApp chatId botUserId url)

def clearPendingWebApp : BotManager :=
  { m with
    pendingWebAppLaunchId := none
    pendingWebAppUrl := none
    pendingWebAppButtonText := []
    pendingWebAppBotUserId := none
    pendingWebAppChatId := none }

def handleWebAppInfo (launchId : ℤ) (url : Option Str) : BotManager :=
  { m with pendingWebAppLaunchId := some launchId, pendingWebAppUrl := url }

def sendWebAppData (botUserId : ℤ) (buttonText data : Str) : BotManager :=
  if data.isEmpty then m else m.send (.sendWebAppData botUserId buttonText data)

def handleError (isInline : Bool) (message : Option Str) : BotManager :=
  let lastError := some (message.getD (units "Ошибка бота"))
  if isInline then
    { m with
      lastError := lastError
      inlineQueryState := { m.inlineQueryState with isLoading := false, error := lastError } }
  else { m with lastError := lastError }

/-- The call that the pending fields are of. -/
def pendingCall : Option WebAppCall :=
  m.pendingWebAppBotUserId.bind fun botUserId =>
    m.pendingWebAppChatId.map fun chatId => ⟨botUserId, chatId, m.pendingWebAppButtonText⟩

end BotManager

/-! ## Replies and what they are for -/

/-- A query: the bot by its username, in which case does not matter. -/
structure InlineQuery where
  bot : Str
  query : Str
  chatId : ℤ
deriving DecidableEq

/-- A screen of a Mini App, with the call that has brought its url. -/
structure WebAppScreen where
  url : Str
  launchId : ℤ
  botUserId : ℤ
  chatId : ℤ
  buttonText : Str
  openedBy : Option WebAppCall

inductive BotEvent where
  | registerUsername (username : Str) (userId : ℤ)
  | handleComposerText (text : Str) (chatId : ℤ)
  | sendInlineResult (chatId queryId : ℤ) (resultId : Str)
  | clearInlineQuery
  /-- The answer to `searchPublicChat`, which has the username. -/
  | resolvedBotChat (username : Str) (userId : Option ℤ)
  /-- The answer to one of the requests for results, with the results as they are parsed. -/
  | inlineQueryResults (request : ℕ) (results : List InlineQueryResultModel) (queryId : ℤ)
  /-- `openWebApp`, which a button of a message calls too. -/
  | openWebApp (chatId botUserId : ℤ) (url buttonText : Str)
  /-- The answer to one of the calls that are not answered. -/
  | webAppInfo (call : ℕ) (launchId : ℤ) (url : Option Str)
  /-- The screen of the chat takes what is pending. -/
  | takeWebApp
  /-- The Mini App of a screen sends data. -/
  | sendWebAppData (screen : ℕ) (data : Str)
  /-- An error, and the call that it is the answer to. -/
  | error (isInline : Bool) (message : Option Str) (call : Option ℕ)

structure BotRun where
  manager : BotManager := {}
  /-- The query that the composer has had last. -/
  latest : Option InlineQuery := none
  /-- The queries that results were asked for. -/
  asked : List InlineQuery := []
  /-- The query that the results are the answer for. -/
  answers : Option InlineQuery := none
  /-- The calls that are not answered. -/
  calls : List WebAppCall := []
  /-- The call that has brought the pending url. -/
  opens : Option WebAppCall := none
  screens : List WebAppScreen := []

namespace BotRun

variable (toLowerCase : Str → Str) (r : BotRun)

/-- The query of a text. -/
def queryOf (text : Str) (chatId : ℤ) : Option InlineQuery :=
  (parseInlineComposerQuery text).map fun q => ⟨toLowerCase q.1, q.2, chatId⟩

/-- What a request for results is for, given the state in which it is sent. -/
def askedFor (s : InlineQueryState) : BotRequest → Option InlineQuery
  | .getInlineQueryResults _ chatId query _ => some ⟨toLowerCase s.botUsername, query, chatId⟩
  | _ => none

/-- The manager has done something in which it may have asked for results. -/
def after (m : BotManager) : BotRun :=
  { r with
    manager := m
    asked := r.asked ++ (m.sent.drop r.manager.sent.length).filterMap (askedFor toLowerCase m.inlineQueryState) }

def handleWebAppInfo (call : ℕ) (launchId : ℤ) (url : Option Str) : BotRun :=
  match r.calls[call]? with
  | none => r
  | some c =>
      { r with manager := r.manager.handleWebAppInfo launchId url, calls := r.calls.eraseIdx call, opens := some c }

def takeWebApp : BotRun :=
  match r.manager.pendingWebAppUrl, r.manager.pendingWebAppLaunchId with
  | some url, some launchId =>
      { r with
        manager := r.manager.clearPendingWebApp
        screens := r.screens ++
          [{ url
             launchId
             botUserId := r.manager.pendingWebAppBotUserId.getD 0
             chatId := r.manager.pendingWebAppChatId.getD 0
             buttonText := r.manager.pendingWebAppButtonText
             openedBy := r.opens }] }
  | _, _ => r

/-- A screen without a bot sends nothing. -/
def sendWebAppData (screen : ℕ) (data : Str) : BotRun :=
  match r.screens[screen]? with
  | none => r
  | some s =>
      if s.botUserId ≠ 0 ∧ !data.isEmpty then
        { r with manager := r.manager.sendWebAppData s.botUserId s.buttonText data }
      else r

@[grind =]
def step (r : BotRun) : BotEvent → BotRun
  | .registerUsername username userId => { r with manager := r.manager.registerUsername toLowerCase username userId }
  | .handleComposerText text chatId =>
      { r.after toLowerCase (r.manager.handleComposerText toLowerCase text chatId) with
        latest := (queryOf toLowerCase text chatId).or r.latest }
  | .sendInlineResult chatId queryId resultId =>
      { r with manager := r.manager.sendInlineResult chatId queryId resultId }
  | .clearInlineQuery => { r with manager := r.manager.clearInlineQuery }
  | .resolvedBotChat username userId =>
      r.after toLowerCase (r.manager.handleResolvedBotChat toLowerCase username userId)
  | .inlineQueryResults request results queryId =>
      { r with manager := r.manager.handleInlineQueryResults results queryId, answers := r.asked[request]? }
  | .openWebApp chatId botUserId url buttonText =>
      { r with
        manager := r.manager.openWebApp chatId botUserId url buttonText
        calls := if url.isEmpty then r.calls else r.calls ++ [⟨botUserId, chatId, buttonText⟩] }
  | .webAppInfo call launchId url => r.handleWebAppInfo call launchId url
  | .takeWebApp => r.takeWebApp
  | .sendWebAppData screen data => r.sendWebAppData screen data
  | .error isInline message call =>
      { r with
        manager := r.manager.handleError isInline message
        calls := call.elim r.calls r.calls.eraseIdx }

/-- Results, the pending url and the screens belong to the query and the calls that they are for. -/
structure IsPaired : Prop where
  results : r.manager.inlineQueryState.isShown → r.answers.isSome ∧ r.answers = r.latest
  pending : r.manager.pendingWebAppUrl.isSome → r.opens.isSome ∧ r.manager.pendingCall = r.opens
  screens : ∀ screen ∈ r.screens, screen.openedBy = some ⟨screen.botUserId, screen.chatId, screen.buttonText⟩

/-- The data of a Mini App go to the bot whose call has opened it. -/
def SendsToOwn : BotEvent → Prop
  | .sendWebAppData i data => ∀ screen, r.screens[i]? = some screen →
      ∀ botUserId text data', .sendWebAppData botUserId text data' ∈
        (r.step toLowerCase (.sendWebAppData i data)).manager.sent.drop r.manager.sent.length →
          screen.openedBy.map (·.botUserId) = some botUserId
  | _ => True

def Pairs (e : BotEvent) : Prop := (r.step toLowerCase e).IsPaired ∧ r.SendsToOwn toLowerCase e

/-! ## When they do -/

/-- A bot is resolved for the latest query, which is still the one that is looked for; results that would be shown
answer the last request or one for the latest query; and no call changes what is pending for a url, or for an answer
that is still to come. -/
def Orderly : BotEvent → Prop
  | .resolvedBotChat username userId => userId.isSome →
      r.latest = some ⟨toLowerCase username, r.manager.inlineQueryState.query, r.manager.pendingInlineChatId⟩
  | .inlineQueryResults request results queryId =>
      r.manager.inlineQueryState.isActive → results ≠ [] → queryId ≠ 0 →
        request + 1 = r.asked.length ∨ r.asked[request]?.isSome ∧ r.asked[request]? = r.latest
  | .openWebApp chatId botUserId url buttonText =>
      url ≠ [] → r.manager.pendingWebAppUrl.isSome → r.manager.pendingCall = some ⟨botUserId, chatId, buttonText⟩
  | .webAppInfo call _ url => url.isSome → ∀ c, r.calls[call]? = some c → r.manager.pendingCall = some c
  | _ => True

variable {toLowerCase r}

/-- What the run needs beside: results that could be shown were asked for the latest query, and with results nothing
is loaded any more. -/
structure Inv (r : BotRun) : Prop where
  paired : r.IsPaired
  asked : r.manager.inlineQueryState.botUserId.isSome → r.latest.isSome ∧ r.asked.getLast? = r.latest
  loaded : r.manager.inlineQueryState.results ≠ [] → r.manager.inlineQueryState.isLoading = false

/-! ### Queries -/

/-- What is pending, and the screens, are those that were. -/
structure SameApps (r r' : BotRun) : Prop where
  url : r'.manager.pendingWebAppUrl = r.manager.pendingWebAppUrl
  call : r'.manager.pendingCall = r.manager.pendingCall
  opens : r'.opens = r.opens
  screens : r'.screens = r.screens

lemma IsPaired.of_sameApps (h : r.IsPaired) {r' : BotRun} (hsame : SameApps r r')
    (hresults : r'.manager.inlineQueryState.isShown → r'.answers.isSome ∧ r'.answers = r'.latest) : r'.IsPaired where
  results := hresults
  pending := by
    rw [hsame.url, hsame.call, hsame.opens]
    exact h.pending
  screens := by
    rw [hsame.screens]
    exact h.screens

lemma isShown_eq_false_of_results {s : InlineQueryState} (h : s.results = []) : s.isShown = false := by
  rw [InlineQueryState.isShown, h]
  exact Bool.and_false _

/-- A state of the queries without a bot, and with nothing to show. -/
lemma Inv.of_bot_none (h : r.Inv) {r' : BotRun} (hsame : SameApps r r')
    (hbot : r'.manager.inlineQueryState.botUserId = none) (hresults : r'.manager.inlineQueryState.results = []) :
    r'.Inv where
  paired := h.paired.of_sameApps hsame fun hshown => by
    rw [isShown_eq_false_of_results hresults] at hshown
    exact nomatch hshown
  asked hsome := by
    rw [hbot] at hsome
    exact nomatch hsome
  loaded hne := absurd hresults hne

/-- Where the state of the queries stays, all does. -/
lemma Inv.of_sameQuery (h : r.Inv) {r' : BotRun} (hsame : SameApps r r')
    (hstate : r'.manager.inlineQueryState = r.manager.inlineQueryState) (hasked : r'.asked = r.asked)
    (hanswers : r'.answers = r.answers) (hlatest : r'.latest = r.latest) : r'.Inv where
  paired := h.paired.of_sameApps hsame fun hshown => by
    rw [hstate] at hshown
    rw [hanswers, hlatest]
    exact h.paired.results hshown
  asked := by
    rw [hstate, hasked, hlatest]
    exact h.asked
  loaded := by
    rw [hstate]
    exact h.loaded

/-- A manager that leaves what is pending. -/
def KeepsApps (m m' : BotManager) : Prop :=
  m'.pendingWebAppUrl = m.pendingWebAppUrl ∧ m'.pendingCall = m.pendingCall

/-- Results are asked for a query that is then the latest one. -/
lemma Inv.perform (h : r.Inv) {m : BotManager} (hkeeps : KeepsApps r.manager m) (hsent : m.sent = r.manager.sent)
    (botUserId : ℤ) (username : Str) (chatId : ℤ) (query : Str) :
    Inv { r.after toLowerCase (m.performInlineQuery botUserId username chatId query) with
      latest := some ⟨toLowerCase username, query, chatId⟩ } where
  paired := h.paired.of_sameApps ⟨hkeeps.1, hkeeps.2, rfl, rfl⟩ fun hshown => by
    rw [isShown_eq_false_of_results rfl] at hshown
    exact nomatch hshown
  asked _ := by
    refine ⟨rfl, ?_⟩
    have hrest : (m.performInlineQuery botUserId username chatId query).sent.drop r.manager.sent.length =
        [.getInlineQueryResults botUserId chatId query (m.inlineRequestId + 1)] := by
      rw [← hsent]
      exact List.drop_left
    change (r.asked ++ _).getLast? = _
    rw [hrest]
    exact List.getLast?_concat
  loaded hne := absurd rfl hne

lemma inv_composerText (h : r.Inv) (text : Str) (chatId : ℤ) :
    (r.step toLowerCase (.handleComposerText text chatId)).Inv := by
  rw [step, BotManager.handleComposerText, queryOf]
  cases parseInlineComposerQuery text with
  | none =>
      dsimp only
      split_ifs
      · exact h.of_bot_none ⟨rfl, rfl, rfl, rfl⟩ rfl rfl
      · exact h.of_sameQuery ⟨rfl, rfl, rfl, rfl⟩ rfl (by simp [after]) rfl rfl
  | some q =>
      rcases q with ⟨username, query⟩
      dsimp only
      cases r.manager.usernameToUserId (toLowerCase username) with
      | none => exact h.of_bot_none ⟨rfl, rfl, rfl, rfl⟩ rfl rfl
      | some botUserId => exact h.perform ⟨rfl, rfl⟩ rfl botUserId username chatId query

lemma inv_resolvedBotChat (h : r.Inv) {username : Str} {userId : Option ℤ}
    (hlatest : r.Orderly toLowerCase (.resolvedBotChat username userId)) :
    (r.step toLowerCase (.resolvedBotChat username userId)).Inv := by
  cases userId with
  | none => exact h.of_bot_none ⟨rfl, rfl, rfl, rfl⟩ rfl rfl
  | some userId =>
      have hkeeps : KeepsApps r.manager (r.manager.registerUsername toLowerCase username userId) := by
        rw [BotManager.registerUsername]
        split_ifs <;> exact ⟨rfl, rfl⟩
      have hsent : (r.manager.registerUsername toLowerCase username userId).sent = r.manager.sent := by
        rw [BotManager.registerUsername]
        split_ifs <;> rfl
      have hperform : Inv { r.after toLowerCase (BotManager.performInlineQuery _ userId username
          r.manager.pendingInlineChatId r.manager.inlineQueryState.query) with latest := _ } :=
        h.perform hkeeps hsent userId username r.manager.pendingInlineChatId r.manager.inlineQueryState.query
      rw [← hlatest rfl] at hperform
      exact hperform

lemma inv_inlineQueryResults (h : r.Inv) {request : ℕ} {results : List InlineQueryResultModel} {queryId : ℤ}
    (hanswer : r.Orderly toLowerCase (.inlineQueryResults request results queryId)) :
    (r.step toLowerCase (.inlineQueryResults request results queryId)).Inv where
  asked := h.asked
  paired := h.paired.of_sameApps ⟨rfl, rfl, rfl, rfl⟩ fun hshown => by
    simp only [step, BotManager.handleInlineQueryResults, InlineQueryState.isShown, Bool.and_eq_true,
      Bool.not_eq_true', List.isEmpty_eq_false_iff] at hshown
    rcases hshown with ⟨⟨⟨hid, hactive⟩, -⟩, hresults⟩
    rcases hanswer hactive hresults (of_decide_eq_true hid) with hlast | hlatest
    · have hasked := h.asked ((Bool.and_eq_true _ _).mp hactive).1
      rw [List.getLast?_eq_getElem?, ← hlast, Nat.add_sub_cancel] at hasked
      change r.asked[request]?.isSome ∧ r.asked[request]? = r.latest
      rw [hasked.2]
      exact ⟨hasked.1, rfl⟩
    · exact hlatest
  loaded _ := rfl

/-- An error ends the loading of results, which would not be there yet. -/
lemma inv_inlineError (h : r.Inv) (message : Option Str) (call : Option ℕ) :
    (r.step toLowerCase (.error true message call)).Inv where
  asked := h.asked
  paired := h.paired.of_sameApps ⟨rfl, rfl, rfl, rfl⟩ fun hshown => by
    refine h.paired.results ?_
    simp only [step, BotManager.handleError, InlineQueryState.isShown, Bool.and_eq_true, Bool.not_eq_true',
      List.isEmpty_eq_false_iff] at hshown ⊢
    exact ⟨⟨hshown.1.1, h.loaded hshown.2⟩, hshown.2⟩
  loaded _ := rfl

/-! ### Mini Apps -/

/-- What is pending changes, and the queries stay. -/
lemma Inv.of_apps (h : r.Inv) {r' : BotRun} (hstate : r'.manager.inlineQueryState = r.manager.inlineQueryState)
    (hasked : r'.asked = r.asked) (hanswers : r'.answers = r.answers) (hlatest : r'.latest = r.latest)
    (hpending : r'.manager.pendingWebAppUrl.isSome → r'.opens.isSome ∧ r'.manager.pendingCall = r'.opens)
    (hscreens : ∀ screen ∈ r'.screens,
      screen.openedBy = some ⟨screen.botUserId, screen.chatId, screen.buttonText⟩) : r'.Inv where
  paired :=
    { results := by
        rw [hstate, hanswers, hlatest]
        exact h.paired.results
      pending := hpending
      screens := hscreens }
  asked := by
    rw [hstate, hasked, hlatest]
    exact h.asked
  loaded := by
    rw [hstate]
    exact h.loaded

lemma inv_openWebApp (h : r.Inv) {chatId botUserId : ℤ} {url buttonText : Str}
    (hsame : r.Orderly toLowerCase (.openWebApp chatId botUserId url buttonText)) :
    (r.step toLowerCase (.openWebApp chatId botUserId url buttonText)).Inv := by
  rw [step, BotManager.openWebApp]
  split_ifs with hurl
  · exact h.of_sameQuery ⟨rfl, rfl, rfl, rfl⟩ rfl rfl rfl rfl
  · refine h.of_apps rfl rfl rfl rfl (fun hpending => ?_) h.paired.screens
    have hcall := hsame (fun heq => hurl (heq ▸ rfl)) hpending
    exact ⟨(h.paired.pending hpending).1, hcall.symm.trans (h.paired.pending hpending).2⟩

lemma inv_webAppInfo (h : r.Inv) {call : ℕ} {launchId : ℤ} {url : Option Str}
    (hown : r.Orderly toLowerCase (.webAppInfo call launchId url)) :
    (r.step toLowerCase (.webAppInfo call launchId url)).Inv := by
  rw [step, handleWebAppInfo]
  cases hcall : r.calls[call]? with
  | none => exact h
  | some c =>
      exact h.of_apps rfl rfl rfl rfl (fun hpending => ⟨rfl, hown hpending c hcall⟩) h.paired.screens

/-- The screen has what the call was made for, whose fields are pending. -/
lemma inv_takeWebApp (h : r.Inv) : (r.step toLowerCase .takeWebApp).Inv := by
  rw [step, takeWebApp]
  split
  · rename_i url launchId hurl hlaunch
    refine h.of_apps rfl rfl rfl rfl (fun hpending => nomatch hpending) ?_
    rw [List.forall_mem_append, List.forall_mem_singleton]
    refine ⟨h.paired.screens, ?_⟩
    rcases h.paired.pending (Option.isSome_iff_exists.mpr ⟨url, hurl⟩) with ⟨hsome, hcall⟩
    rcases Option.isSome_iff_exists.mp hsome with ⟨c, hc⟩
    rw [hc, BotManager.pendingCall] at hcall
    rcases Option.bind_eq_some_iff.mp hcall with ⟨botUserId, hbot, hchat⟩
    rcases Option.map_eq_some_iff.mp hchat with ⟨chatId, hchat, hc'⟩
    dsimp only
    rw [hc, hbot, hchat, ← hc']
    rfl
  · exact h

lemma sendWebAppData_eq (i : ℕ) (data : Str) : ∃ sent, r.sendWebAppData i data =
      { r with manager := { r.manager with sent := r.manager.sent ++ sent } } ∧
    ∀ request ∈ sent, ∃ screen, r.screens[i]? = some screen ∧
      request = .sendWebAppData screen.botUserId screen.buttonText data := by
  rw [sendWebAppData]
  cases hscreen : r.screens[i]? with
  | none => exact ⟨[], by simp, List.forall_mem_nil _⟩
  | some screen =>
      dsimp only
      split_ifs with hdata
      · refine ⟨[.sendWebAppData screen.botUserId screen.buttonText data], ?_, ?_⟩
        · rw [BotManager.sendWebAppData, if_neg (by simpa using hdata.2)]
          rfl
        · rw [List.forall_mem_singleton]
          exact ⟨screen, rfl, rfl⟩
      · exact ⟨[], by simp, List.forall_mem_nil _⟩

/-- Screens that have what they were opened for send to their own bot. -/
lemma sendsToOwn (h : r.IsPaired) (e : BotEvent) : r.SendsToOwn toLowerCase e := by
  cases e with
  | sendWebAppData i data =>
      intro screen hscreen botUserId text data' hsent
      rcases sendWebAppData_eq (r := r) i data with ⟨sent, hstep, hrequests⟩
      rw [step, hstep, List.drop_left] at hsent
      rcases hrequests _ hsent with ⟨screen', hscreen', hrequest⟩
      rw [hscreen, Option.some_inj] at hscreen'
      rw [h.screens screen (List.mem_of_getElem? hscreen), hscreen', (BotRequest.sendWebAppData.inj hrequest).1]
      rfl
  | _ => trivial

/-- What one step keeps. -/
lemma inv_step (h : r.Inv) (e : BotEvent) (he : r.Orderly toLowerCase e) : (r.step toLowerCase e).Inv := by
  cases e with
  | registerUsername username userId =>
      rw [step, BotManager.registerUsername]
      split_ifs <;> exact h.of_sameQuery ⟨rfl, rfl, rfl, rfl⟩ rfl rfl rfl rfl
  | handleComposerText text chatId => exact inv_composerText h text chatId
  | sendInlineResult chatId queryId resultId => exact h.of_bot_none ⟨rfl, rfl, rfl, rfl⟩ rfl rfl
  | clearInlineQuery => exact h.of_bot_none ⟨rfl, rfl, rfl, rfl⟩ rfl rfl
  | resolvedBotChat username userId => exact inv_resolvedBotChat h he
  | inlineQueryResults request results queryId => exact inv_inlineQueryResults h he
  | openWebApp chatId botUserId url buttonText => exact inv_openWebApp h he
  | webAppInfo call launchId url => exact inv_webAppInfo h he
  | takeWebApp => exact inv_takeWebApp h
  | sendWebAppData screen data =>
      rcases sendWebAppData_eq (r := r) screen data with ⟨sent, hstep, -⟩
      rw [step, hstep]
      exact h.of_sameQuery ⟨rfl, rfl, rfl, rfl⟩ rfl rfl rfl rfl
  | error isInline message call =>
      cases isInline with
      | false => exact h.of_sameQuery ⟨rfl, rfl, rfl, rfl⟩ rfl rfl rfl rfl
      | true => exact inv_inlineError h message call

/-- **Replies are paired with requests**: in a run in which bots are resolved and results come for the latest query,
and a Mini App is opened for the call that was made last, each step leaves everything with what it is for. -/
theorem pairs_of_meets (toLowerCase : Str → Str) (events : List BotEvent)
    (h : Meets (step toLowerCase) (Orderly toLowerCase) {} events) :
    Meets (step toLowerCase) (Pairs toLowerCase) {} events := by
  refine (h.invariant (I := Inv) ?_ (fun r e hr he => inv_step hr e he)
    (fun r e hr he => ⟨(inv_step hr e he).paired, sendsToOwn hr.paired e⟩)).1
  exact ⟨⟨fun hshown => (nomatch hshown), fun hpending => (nomatch hpending), List.forall_mem_nil _⟩,
    fun hbot => (nomatch hbot), fun _ => rfl⟩

/-- A bot is resolved and asked, its results are shown, and a Mini App is opened that sends data. -/
theorem pairs_of_one_at_a_time :
    let events := [.handleComposerText (ascii "@gif cat") 10, .resolvedBotChat (ascii "gif") (some 1),
      .inlineQueryResults 0 [⟨ascii "a", ascii "A cat", [], []⟩] 7,
      .openWebApp 10 1 (ascii "https://a.example") (ascii "A"), .webAppInfo 0 100 (some (ascii "https://a.example/1")),
      .takeWebApp, .sendWebAppData 0 (ascii "data")]
    (events.foldl (step id) {}).manager.inlineQueryState.isShown = true ∧
      (events.foldl (step id) {}).manager.sent.getLast? = some (.sendWebAppData 1 (ascii "A") (ascii "data")) ∧
      Meets (step id) (Pairs id) {} events := by
  refine ⟨by decide +kernel, by decide +kernel, pairs_of_meets id _ ?_⟩
  exact ⟨trivial, fun _ => (by decide +kernel), fun _ _ _ => .inl (by decide +kernel), fun _ h => (nomatch h),
    fun _ c h => (Option.some_inj.mp h ▸ rfl), trivial, trivial, trivial⟩

/-- A second Mini App is opened before the first one is answered: the screen of the first has the bot of the second,
which gets its data. -/
theorem data_to_other_bot :
    let events := [.openWebApp 10 1 (ascii "https://a.example") (ascii "A"),
      .openWebApp 20 2 (ascii "https://b.example") (ascii "B"),
      .webAppInfo 0 100 (some (ascii "https://a.example/1")), .takeWebApp, .sendWebAppData 0 (ascii "data")]
    (events.foldl (step id) {}).manager.sent.getLast? = some (.sendWebAppData 2 (ascii "B") (ascii "data")) ∧
      ¬Meets (step id) (Pairs id) {} events := by
  refine ⟨by decide +kernel, ?_⟩
  rintro ⟨-, -, ⟨hpaired, -⟩, -⟩
  exact absurd (hpaired.pending rfl).2 (by decide +kernel)

/-- The results for a query come when the user has gone on to the next one, and are shown for that. -/
theorem late_results_shown :
    let events := [.registerUsername (ascii "gif") 1, .handleComposerText (ascii "@gif cat") 10,
      .handleComposerText (ascii "@gif dog") 10, .inlineQueryResults 0 [⟨ascii "a", ascii "A cat", [], []⟩] 7]
    (events.foldl (step id) {}).manager.inlineQueryState.isShown = true ∧
      (events.foldl (step id) {}).manager.inlineQueryState.query = ascii "dog" ∧
      (events.foldl (step id) {}).answers = some ⟨ascii "gif", ascii "cat", 10⟩ := by
  decide

end BotRun

end RioGram.Bots
