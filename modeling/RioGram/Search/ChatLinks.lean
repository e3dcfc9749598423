import RioGram.Search.Manager

/-!
# Links to chats

`PublicChatLinkParser` and `TdlibSearchParser` look for the names of users and for invitations in links.  A host is
taken for Telegram's if `t.me` is anywhere in it, and the name of a user is looked for in the last segment of the path.

* `LinksRight` — names come from links on Telegram's hosts, from the first segment, and so do invitations.
* `linksRight_iff` says for which queries it is so, and `post_number_for_username` is one for which it is not.
-/

namespace RioGram.Search

open Chats TdlibSearchParser

/-! ## Parsing -/

/-- What is used of a `Uri`: its segments have no percent encoding any more, its path has it still. -/
structure ChatLinkUri extends LinkUri where
  path : String

/-- Letters, digits and underscores. -/
def isName (text : String) : Bool := text.toList.all fun c => c.isAlphanum || c == '_'

/-- `Uri.tryParse`.  A name has no host with a dot in it, also with a scheme or the sign of a user in front of it. -/
structure UriParser where
  tryParse : String → Option ChatLinkUri
  dotless : ∀ name, isName name → ∀ text ∈ [name, "https://" ++ name, "https://@" ++ name],
    ∀ uri, tryParse text = some uri → '.' ∉ uri.host.toList

/-- What comes behind a scheme. -/
def afterScheme (text : String) : List Char :=
  if "https://".toList <+: text.toList then text.toList.drop 8 else text.toList

/-- Links with a host and a path and nothing else. -/
def UriParser.plain : UriParser where
  tryParse text :=
    let path := (afterScheme text).dropWhile (· ≠ '/')
    some {
      host := String.ofList ((afterScheme text).takeWhile (· ≠ '/'))
      pathSegments := ((path.drop 1).splitOn '/').map String.ofList
      path := String.ofList path }
  dotless := by
    intro name hname text htext uri huri hdot
    cases huri
    have hname' : '.' ∉ name.toList := fun h => absurd (List.all_eq_true.mp hname '.' h) (by decide)
    have hmem : '.' ∈ text.toList := by
      have hmem := (List.takeWhile_sublist _).subset (by simpa using hdot)
      rw [afterScheme] at hmem
      split_ifs at hmem
      · exact List.mem_of_mem_drop hmem
      · exact hmem
    simp only [List.mem_cons, List.not_mem_nil, or_false] at htext
    rcases htext with rfl | rfl | rfl <;> simp [hname'] at hmem

/-- The parts of the links for which the path is not looked at. -/
def UriParser.tryParseLink (U : UriParser) (text : String) : Option LinkUri := (U.tryParse text).map (·.toLinkUri)

def withScheme (trimmed : String) : String :=
  if "http".toList <+: trimmed.toList then trimmed else "https://" ++ trimmed

/-- What is taken for a host of Telegram. -/
def mentionsTelegram (host : String) : Prop :=
  "t.me".toList <:+: host.toList ∨ "telegram.me".toList <:+: host.toList

instance (host : String) : Decidable (mentionsTelegram host) := inferInstanceAs (Decidable (_ ∨ _))

/-- `PublicChatLinkParser.parseInviteLink`. -/
def parseInviteLink (P : Platform) (U : UriParser) (query : String) : Option String :=
  let trimmed := P.trim query
  if trimmed = "" then none
  else if "joinchat/".toList <:+: trimmed.toList then some trimmed
  else if ((U.tryParse (withScheme trimmed)).filter fun uri => mentionsTelegram uri.host).any fun uri =>
      uri.pathSegments.head? = some "joinchat" || "/+".toList <+: uri.path.toList then
    some (withScheme trimmed)
  else if "+".toList <+: trimmed.toList ∧ 8 < lengthOf trimmed then some ("https://t.me/" ++ trimmed)
  else none

/-! ## What a link is -/

/-- `t.me` and `telegram.me`, and what is below them. -/
def isTelegramHost (host : String) : Bool :=
  host = "t.me" || host = "telegram.me" || ".t.me".toList <:+ host.toList || ".telegram.me".toList <:+ host.toList

/-- The segments that are not empty. -/
def ChatLinkUri.segments (uri : ChatLinkUri) : List String := uri.pathSegments.filter (· ≠ "")

/-- A `+` with a hash behind it, which is no link. -/
def IsBareHash (text : String) : Prop := "+".toList <+: text.toList ∧ '/' ∉ text.toList

instance (text : String) : Decidable (IsBareHash text) := inferInstanceAs (Decidable (_ ∧ _))

variable (P : Platform) (U : UriParser) (query : String)

/-- The query as a link, also where it has no scheme. -/
def linkOf : Option ChatLinkUri := if P.trim query = "" then none else U.tryParse (withScheme (P.trim query))

/-- The query is a link on one of Telegram's hosts, or a hash. -/
def IsInvitation : Prop := (∃ uri, linkOf P U query = some uri ∧ isTelegramHost uri.host) ∨ IsBareHash (P.trim query)

/-- A name is the query itself or the first segment of a link on one of Telegram's hosts, and it is found in such a
link whatever comes after it, unless it stands for an invitation; invitations are on these hosts, or hashes. -/
structure LinksRight : Prop where
  username : ∀ name, parseUsername P U.tryParseLink query = some name → isValidUsername name ∧
    (P.trim query = name ∨ P.trim query = "@" ++ name ∨
      ∃ uri, linkOf P U query = some uri ∧ isTelegramHost uri.host ∧ uri.segments.head? = some name)
  firstSegment : ∀ uri name, linkOf P U query = some uri → isTelegramHost uri.host →
    uri.segments.head? = some name → isValidUsername name → name ≠ "joinchat" →
      parseUsername P U.tryParseLink query = some name
  inviteLink : ∀ link, parseInviteLink P U query = some link → IsInvitation P U query
  inviteToken : ∀ token, parseInviteToken P U.tryParseLink query = some token → IsInvitation P U query

/-- On Telegram's hosts nothing else comes after a name that could be one, and the path of a link on another host that
has `t.me` in it does not end in a name. -/
def UsernamePlain (uri : ChatLinkUri) : Prop :=
  ∀ first last, uri.segments.head? = some first → uri.segments.getLast? = some last → first ≠ "joinchat" →
    ¬"+".toList <+: first.toList →
    if isTelegramHost uri.host then (isValidUsername first ∨ isValidUsername last → first = last)
    else isValidUsername last = false

/-- What has the form of an invitation in a link. -/
def HasInvite (uri : ChatLinkUri) : Prop :=
  uri.pathSegments.head? = some "joinchat" ∨ "/+".toList <+: uri.path.toList ∨
    (uri.segments.head? = some "joinchat" ∧ 1 < uri.segments.length) ∨
      ∃ first, uri.segments.head? = some first ∧ "+".toList <+: first.toList

/-- Links are plain, and what has the form of an invitation is one. -/
structure LinksPlain : Prop where
  username : ∀ uri, linkOf P U query = some uri → mentionsTelegram uri.host → UsernamePlain uri
  joinchat : "joinchat/".toList <:+: (P.trim query).toList → IsInvitation P U query
  invite : ∀ uri, linkOf P U query = some uri → mentionsTelegram uri.host → HasInvite uri → IsInvitation P U query
  hash : "+".toList <+: (P.trim query).toList → 8 < lengthOf (P.trim query) → IsInvitation P U query

/-! ## What is found -/

variable {P : Platform} {U : UriParser} {query : String} {uri : ChatLinkUri}

lemma mentionsTelegram_of_isTelegramHost {host : String} (h : isTelegramHost host) : mentionsTelegram host := by
  simp only [isTelegramHost, Bool.or_eq_true, decide_eq_true_eq] at h
  rcases h with ((rfl | rfl) | h) | h
  · exact .inl (List.infix_refl _)
  · exact .inr (List.infix_refl _)
  · exact .inl (List.IsInfix.trans ⟨['.'], [], rfl⟩ h.isInfix)
  · exact .inr (List.IsInfix.trans ⟨['.'], [], rfl⟩ h.isInfix)

lemma dot_mem_of_mentionsTelegram {host : String} (h : mentionsTelegram host) : '.' ∈ host.toList := by
  rcases h with h | h
  · exact h.subset (by decide)
  · exact h.subset (by decide)

/-- The link that the parsers look at. -/
lemma filter_tryParseLink (h : P.trim query ≠ "") :
    ((U.tryParseLink (if "http".toList <+: (P.trim query).toList then P.trim query
      else "https://" ++ P.trim query)).filter
        fun uri => "t.me".toList <:+: uri.host.toList ∨ "telegram.me".toList <:+: uri.host.toList) =
      ((linkOf P U query).filter fun uri => mentionsTelegram uri.host).map (·.toLinkUri) := by
  rw [linkOf, if_neg h, withScheme, UriParser.tryParseLink]
  cases U.tryParse (if "http".toList <+: (P.trim query).toList then P.trim query else "https://" ++ P.trim query) with
  | none => rfl
  | some uri =>
      rw [Option.map_some, Option.filter_some, Option.filter_some, apply_ite (Option.map ChatLinkUri.toLinkUri)]
      rfl

lemma filter_of_no_link (hne : P.trim query ≠ "")
    (hlink : ∀ uri, linkOf P U query = some uri → ¬mentionsTelegram uri.host) :
    ((U.tryParseLink (if "http".toList <+: (P.trim query).toList then P.trim query
      else "https://" ++ P.trim query)).filter
        fun uri => "t.me".toList <:+: uri.host.toList ∨ "telegram.me".toList <:+: uri.host.toList) = none := by
  have hnone : ((linkOf P U query).filter fun uri => mentionsTelegram uri.host) = none := by
    rw [Option.filter_eq_none_iff]
    intro uri huri
    simpa using hlink uri huri
  rw [filter_tryParseLink hne, hnone, Option.map_none]

lemma linkOf_eq_none (h : P.trim query = "") : linkOf P U query = none := if_pos h

lemma ne_of_linkOf (h : linkOf P U query = some uri) : P.trim query ≠ "" := by
  intro hblank
  rw [linkOf_eq_none hblank] at h
  cases h

lemma filter_of_link (hlink : linkOf P U query = some uri) (hhost : mentionsTelegram uri.host) :
    ((U.tryParseLink (if "http".toList <+: (P.trim query).toList then P.trim query
      else "https://" ++ P.trim query)).filter
        fun uri => "t.me".toList <:+: uri.host.toList ∨ "telegram.me".toList <:+: uri.host.toList) =
      some uri.toLinkUri := by
  rw [filter_tryParseLink (ne_of_linkOf hlink), hlink, Option.filter_some, if_pos (decide_eq_true hhost),
    Option.map_some]

/-! ### Names -/

/-- The name at the end of a path, unless the path is an invitation. -/
def lastName (segments : List String) : Option String :=
  match segments.head?, segments.getLast? with
  | some first, some username =>
      if first = "joinchat" ∨ "+".toList <+: first.toList then none
      else if isValidUsername username then some username else none
  | _, _ => none

lemma parseUsername_of_link (hlink : linkOf P U query = some uri) (hhost : mentionsTelegram uri.host) :
    parseUsername P U.tryParseLink query = lastName uri.segments := by
  simp only [parseUsername, if_neg (ne_of_linkOf hlink), filter_of_link hlink hhost]
  rfl

/-- A query that is taken for no link is a name, with a sign or without. -/
lemma parseUsername_of_no_link (hne : P.trim query ≠ "")
    (hlink : ∀ uri, linkOf P U query = some uri → ¬mentionsTelegram uri.host) :
    ∃ value, (P.trim query = value ∨ P.trim query = "@" ++ value) ∧
      parseUsername P U.tryParseLink query = if isValidUsername value then some value else none := by
  simp only [parseUsername, if_neg hne, filter_of_no_link hne hlink]
  refine ⟨_, ?_, rfl⟩
  split_ifs with hsign
  · rcases hsign with ⟨rest, hrest⟩
    refine .inr (String.toList_injective ?_)
    simp [← hrest]
  · exact .inl rfl

lemma lastName_eq_some_iff {segments : List String} {name : String} :
    lastName segments = some name ↔ ∃ first, segments.head? = some first ∧ segments.getLast? = some name ∧
      first ≠ "joinchat" ∧ ¬"+".toList <+: first.toList ∧ isValidUsername name := by
  rw [lastName]
  constructor
  · intro h
    split at h
    · rename_i first last hfirst hlast
      split_ifs at h with hinvite hvalid
      cases h
      rw [not_or] at hinvite
      exact ⟨first, hfirst, hlast, hinvite.1, hinvite.2, hvalid⟩
    · cases h
  · rintro ⟨first, hfirst, hlast, hjoinchat, hplus, hvalid⟩
    rw [hfirst, hlast]
    dsimp only
    rw [if_neg (not_or.mpr ⟨hjoinchat, hplus⟩), if_pos hvalid]

lemma isName_of_isValidUsername {name : String} (h : isValidUsername name) : isName name := by
  rw [isValidUsername, decide_eq_true_eq] at h
  exact h.2.2

lemma not_plus_of_isValidUsername {name : String} (h : isValidUsername name) : ¬"+".toList <+: name.toList := by
  intro hplus
  have hunit := List.all_eq_true.mp (isName_of_isValidUsername h) '+' (hplus.subset List.mem_cons_self)
  exact absurd hunit (by decide)

/-- A name is no link. -/
lemma not_mentionsTelegram_of_name {name : String} (hlink : linkOf P U query = some uri) (hvalid : isValidUsername name)
    (hname : P.trim query = name ∨ P.trim query = "@" ++ name) : ¬mentionsTelegram uri.host := by
  intro hhost
  rw [linkOf, if_neg (ne_of_linkOf hlink)] at hlink
  refine U.dotless name (isName_of_isValidUsername hvalid) _ ?_ uri hlink (dot_mem_of_mentionsTelegram hhost)
  rw [withScheme]
  rcases hname with hname | hname
  · rw [hname]
    split_ifs <;> simp
  · have hscheme : ¬"http".toList <+: ("@" ++ name).toList := by
      simp
    rw [hname, if_neg hscheme]
    simp [← String.append_assoc]

/-- **When the name in a link is right.** -/
lemma username_right_iff (hlink : linkOf P U query = some uri) (hhost : mentionsTelegram uri.host) :
    ((∀ name, parseUsername P U.tryParseLink query = some name → isValidUsername name ∧
      (P.trim query = name ∨ P.trim query = "@" ++ name ∨
        isTelegramHost uri.host ∧ uri.segments.head? = some name)) ∧
    ∀ name, isTelegramHost uri.host → uri.segments.head? = some name → isValidUsername name → name ≠ "joinchat" →
      parseUsername P U.tryParseLink query = some name) ↔ UsernamePlain uri := by
  rw [parseUsername_of_link hlink hhost]
  constructor
  · rintro ⟨husername, hsegment⟩ first last hfirst hlast hjoinchat hplus
    have hfound (hvalid : isValidUsername last) : isTelegramHost uri.host ∧ first = last := by
      rcases husername last (lastName_eq_some_iff.mpr ⟨first, hfirst, hlast, hjoinchat, hplus, hvalid⟩) with
        ⟨-, hname | hname | ⟨htelegram, hhead⟩⟩
      · exact absurd hhost (not_mentionsTelegram_of_name hlink hvalid (.inl hname))
      · exact absurd hhost (not_mentionsTelegram_of_name hlink hvalid (.inr hname))
      · exact ⟨htelegram, Option.some.inj (hfirst.symm.trans hhead)⟩
    split_ifs with htelegram
    · rintro (hvalid | hvalid)
      · rcases lastName_eq_some_iff.mp (hsegment first htelegram hfirst hvalid hjoinchat) with ⟨-, -, hend, -⟩
        exact Option.some.inj (hend.symm.trans hlast)
      · exact (hfound hvalid).2
    · rw [Bool.eq_false_iff]
      exact fun hvalid => htelegram (hfound hvalid).1
  · intro hplain
    constructor
    · intro name hname
      rcases lastName_eq_some_iff.mp hname with ⟨first, hfirst, hlast, hjoinchat, hplus, hvalid⟩
      have hends := hplain first name hfirst hlast hjoinchat hplus
      split_ifs at hends with htelegram
      · exact ⟨hvalid, .inr (.inr ⟨htelegram, (hends (.inr hvalid)) ▸ hfirst⟩)⟩
      · rw [hvalid] at hends
        cases hends
    · intro name htelegram hfirst hvalid hjoinchat
      have hplus := not_plus_of_isValidUsername hvalid
      have hne : uri.segments ≠ [] := by
        intro hnil
        rw [hnil] at hfirst
        cases hfirst
      have hlast := List.getLast?_eq_some_getLast hne
      have hends := hplain name _ hfirst hlast hjoinchat hplus
      rw [if_pos htelegram] at hends
      rw [← hends (.inl hvalid)] at hlast
      exact lastName_eq_some_iff.mpr ⟨name, hfirst, hlast, hjoinchat, hplus, hvalid⟩

/-! ### Invitations -/

lemma not_empty_of_infix {part : String} (hpart : part ≠ "") (h : part.toList <:+: (P.trim query).toList) :
    P.trim query ≠ "" := by
  intro hblank
  rw [hblank] at h
  exact hpart (String.toList_injective (List.infix_nil.mp h))

/-- What `parseInviteLink` takes for an invitation. -/
lemma parseInviteLink_isSome_iff :
    (parseInviteLink P U query).isSome ↔ "joinchat/".toList <:+: (P.trim query).toList ∨
      (∃ uri, linkOf P U query = some uri ∧ mentionsTelegram uri.host ∧
        (uri.pathSegments.head? = some "joinchat" ∨ "/+".toList <+: uri.path.toList)) ∨
      ("+".toList <+: (P.trim query).toList ∧ 8 < lengthOf (P.trim query)) := by
  by_cases hne : P.trim query = ""
  · have hnone : parseInviteLink P U query = none := if_pos hne
    rw [hnone]
    refine iff_of_false Bool.false_ne_true ?_
    rintro (h | ⟨uri, hlink, -⟩ | ⟨h, -⟩)
    · exact not_empty_of_infix (by decide) h hne
    · exact ne_of_linkOf hlink hne
    · exact not_empty_of_infix (by decide) h.isInfix hne
  · have hlink : (((U.tryParse (withScheme (P.trim query))).filter fun uri => mentionsTelegram uri.host).any fun uri =>
          uri.pathSegments.head? = some "joinchat" || "/+".toList <+: uri.path.toList) ↔
        ∃ uri, linkOf P U query = some uri ∧ mentionsTelegram uri.host ∧
          (uri.pathSegments.head? = some "joinchat" ∨ "/+".toList <+: uri.path.toList) := by
      rw [linkOf, if_neg hne]
      simp [Option.any_eq_true]
    rw [← hlink, parseInviteLink, if_neg hne]
    split_ifs with hjoinchat hpath hplus
    · exact iff_of_true rfl (.inl hjoinchat)
    · exact iff_of_true rfl (.inr (.inl hpath))
    · exact iff_of_true rfl (.inr (.inr hplus))
    · exact iff_of_false Bool.false_ne_true (not_or.mpr ⟨hjoinchat, not_or.mpr ⟨hpath, hplus⟩⟩)

/-- What `parseInviteToken` takes for one in a link. -/
lemma parseInviteToken_isSome_of_link (hlink : linkOf P U query = some uri) (hhost : mentionsTelegram uri.host) :
    (parseInviteToken P U.tryParseLink query).isSome ↔
      ((uri.segments.head? = some "joinchat" ∧ 1 < uri.segments.length) ∨
        ∃ first, uri.segments.head? = some first ∧ "+".toList <+: first.toList) ∨
      ("+".toList <+: (P.trim query).toList ∧ 8 < lengthOf (P.trim query) ∧ uri.segments ≠ []) := by
  have hsegments : uri.pathSegments.filter (fun segment => decide (segment ≠ "")) = uri.segments := rfl
  simp only [parseInviteToken, if_neg (ne_of_linkOf hlink), filter_of_link hlink hhost, Option.map_some, hsegments]
  cases uri.segments with
  | nil => simp
  | cons first segments =>
      dsimp only
      split_ifs with hjoinchat hplus hhash
      · exact iff_of_true (by simpa [List.isSome_head?] using hjoinchat.2)
          (.inl (.inl ⟨congrArg some hjoinchat.1, Nat.succ_lt_succ (List.length_pos_iff.mpr hjoinchat.2)⟩))
      · exact iff_of_true rfl (.inl (.inr ⟨first, rfl, hplus⟩))
      · exact iff_of_true rfl (.inr ⟨hhash.1, hhash.2, List.cons_ne_nil _ _⟩)
      · refine iff_of_false Bool.false_ne_true ?_
        rintro ((⟨hfirst, hlength⟩ | ⟨name, hname, hname'⟩) | ⟨hsign, hlength, -⟩)
        · exact hjoinchat ⟨Option.some.inj hfirst, List.length_pos_iff.mp (Nat.lt_of_succ_lt_succ hlength)⟩
        · exact hplus (Option.some.inj hname ▸ hname')
        · exact hhash ⟨hsign, hlength⟩

/-- Where there is no link, a hash is. -/
lemma parseInviteToken_isSome_of_no_link (hne : P.trim query ≠ "")
    (hlink : ∀ uri, linkOf P U query = some uri → ¬mentionsTelegram uri.host) :
    (parseInviteToken P U.tryParseLink query).isSome ↔
      "+".toList <+: (P.trim query).toList ∧ 8 < lengthOf (P.trim query) := by
  simp only [parseInviteToken, if_neg hne, filter_of_no_link hne hlink, Option.map_none]
  split_ifs with hhash
  · exact iff_of_true rfl hhash
  · exact iff_of_false Bool.false_ne_true hhash

/-- What `parseInviteToken` takes for one. -/
lemma parseInviteToken_isSome_iff :
    (parseInviteToken P U.tryParseLink query).isSome ↔
      (∃ uri, linkOf P U query = some uri ∧ mentionsTelegram uri.host ∧
        ((uri.segments.head? = some "joinchat" ∧ 1 < uri.segments.length) ∨
          ∃ first, uri.segments.head? = some first ∧ "+".toList <+: first.toList)) ∨
      ("+".toList <+: (P.trim query).toList ∧ 8 < lengthOf (P.trim query) ∧
        ∀ uri, linkOf P U query = some uri → mentionsTelegram uri.host → uri.segments ≠ []) := by
  by_cases hne : P.trim query = ""
  · have hnone : parseInviteToken P U.tryParseLink query = none := if_pos hne
    rw [hnone]
    refine iff_of_false Bool.false_ne_true ?_
    rintro (⟨uri, hlink, -⟩ | ⟨h, -⟩)
    · exact ne_of_linkOf hlink hne
    · exact not_empty_of_infix (by decide) h.isInfix hne
  by_cases hlink : ∃ uri, linkOf P U query = some uri ∧ mentionsTelegram uri.host
  · rcases hlink with ⟨uri, hlink, hhost⟩
    rw [parseInviteToken_isSome_of_link hlink hhost]
    simp only [hlink, Option.some.injEq, exists_eq_left', forall_eq', hhost, true_and, forall_true_left]
  · have hlink' : ∀ uri, linkOf P U query = some uri → ¬mentionsTelegram uri.host :=
      fun uri huri hhost => hlink ⟨uri, huri, hhost⟩
    rw [parseInviteToken_isSome_of_no_link hne hlink']
    constructor
    · rintro ⟨hsign, hlength⟩
      exact .inr ⟨hsign, hlength, fun uri huri hhost => absurd hhost (hlink' uri huri)⟩
    · rintro (⟨uri, huri, hhost, -⟩ | ⟨hsign, hlength, -⟩)
      · exact absurd hhost (hlink' uri huri)
      · exact ⟨hsign, hlength⟩

/-- **When only invitations are taken for them.** -/
lemma invites_right_iff :
    ((∀ link, parseInviteLink P U query = some link → IsInvitation P U query) ∧
      ∀ token, parseInviteToken P U.tryParseLink query = some token → IsInvitation P U query) ↔
    ("joinchat/".toList <:+: (P.trim query).toList → IsInvitation P U query) ∧
      (∀ uri, linkOf P U query = some uri → mentionsTelegram uri.host → HasInvite uri → IsInvitation P U query) ∧
      ("+".toList <+: (P.trim query).toList → 8 < lengthOf (P.trim query) → IsInvitation P U query) := by
  have hsome (found : Option String) :
      (∀ value, found = some value → IsInvitation P U query) ↔ (found.isSome → IsInvitation P U query) := by
    rw [Option.isSome_iff_exists, forall_exists_index]
  rw [hsome, hsome, parseInviteLink_isSome_iff, parseInviteToken_isSome_iff]
  constructor
  · rintro ⟨hlink, htoken⟩
    refine ⟨fun h => hlink (.inl h), ?_, fun hsign hlength => hlink (.inr (.inr ⟨hsign, hlength⟩))⟩
    rintro uri huri hhost (hfirst | hpath | hsegments)
    · exact hlink (.inr (.inl ⟨uri, huri, hhost, .inl hfirst⟩))
    · exact hlink (.inr (.inl ⟨uri, huri, hhost, .inr hpath⟩))
    · exact htoken (.inl ⟨uri, huri, hhost, hsegments⟩)
  · rintro ⟨hjoinchat, hinvite, hhash⟩
    constructor
    · rintro (h | ⟨uri, huri, hhost, hfirst | hpath⟩ | ⟨hsign, hlength⟩)
      · exact hjoinchat h
      · exact hinvite uri huri hhost (.inl hfirst)
      · exact hinvite uri huri hhost (.inr (.inl hpath))
      · exact hhash hsign hlength
    · rintro (⟨uri, huri, hhost, hsegments⟩ | ⟨hsign, hlength, -⟩)
      · exact hinvite uri huri hhost (.inr (.inr hsegments))
      · exact hhash hsign hlength

/-- What is no link is a name or nothing. -/
lemma username_right_of_no_link (hlink : ∀ uri, linkOf P U query = some uri → ¬mentionsTelegram uri.host)
    {name : String} (hname : parseUsername P U.tryParseLink query = some name) :
    isValidUsername name ∧ (P.trim query = name ∨ P.trim query = "@" ++ name) := by
  have hne : P.trim query ≠ "" := by
    intro hblank
    rw [parseUsername, if_pos hblank] at hname
    cases hname
  rcases parseUsername_of_no_link hne hlink with ⟨value, hvalue, husername⟩
  rw [husername] at hname
  split_ifs at hname with hvalid
  cases hname
  exact ⟨hvalid, hvalue⟩

/-- **Names and invitations are right if, and only if, links are plain.** -/
theorem linksRight_iff (P : Platform) (U : UriParser) (query : String) :
    LinksRight P U query ↔ LinksPlain P U query := by
  constructor
  · intro h
    have hinvites := invites_right_iff.mp ⟨h.inviteLink, h.inviteToken⟩
    refine ⟨?_, hinvites.1, hinvites.2.1, hinvites.2.2⟩
    intro uri hlink hhost
    refine (username_right_iff hlink hhost).mp ⟨?_, fun name => h.firstSegment uri name hlink⟩
    intro name hname
    rcases h.username name hname with ⟨hvalid, hquery | hquery | ⟨uri', hlink', htelegram, hfirst⟩⟩
    · exact ⟨hvalid, .inl hquery⟩
    · exact ⟨hvalid, .inr (.inl hquery)⟩
    · cases hlink.symm.trans hlink'
      exact ⟨hvalid, .inr (.inr ⟨htelegram, hfirst⟩)⟩
  · intro h
    have hinvites := invites_right_iff.mpr ⟨h.joinchat, h.invite, h.hash⟩
    refine ⟨?_, ?_, hinvites.1, hinvites.2⟩
    · intro name hname
      by_cases hlink : ∃ uri, linkOf P U query = some uri ∧ mentionsTelegram uri.host
      · rcases hlink with ⟨uri, hlink, hhost⟩
        rcases ((username_right_iff hlink hhost).mpr (h.username uri hlink hhost)).1 name hname with
          ⟨hvalid, hquery | hquery | hfirst⟩
        · exact ⟨hvalid, .inl hquery⟩
        · exact ⟨hvalid, .inr (.inl hquery)⟩
        · exact ⟨hvalid, .inr (.inr ⟨uri, hlink, hfirst⟩)⟩
      · rcases username_right_of_no_link (fun uri huri hhost => hlink ⟨uri, huri, hhost⟩) hname with
          ⟨hvalid, hquery | hquery⟩
        · exact ⟨hvalid, .inl hquery⟩
        · exact ⟨hvalid, .inr (.inl hquery)⟩
    · intro uri name hlink htelegram
      have hhost := mentionsTelegram_of_isTelegramHost htelegram
      exact ((username_right_iff hlink hhost).mpr (h.username uri hlink hhost)).2 name htelegram

/-- A post is opened as a user, and so is a link on another host. -/
theorem post_number_for_username :
    parseUsername .plain UriParser.plain.tryParseLink "https://t.me/durov/123456" = some "123456" ∧
      ¬LinksRight .plain .plain "https://t.me/durov/123456" ∧
      parseUsername .plain UriParser.plain.tryParseLink "https://not.me/durov" = some "durov" ∧
      ¬LinksRight .plain .plain "https://not.me/durov" := by
  refine ⟨by decide +kernel, fun h => ?_, by decide +kernel, fun h => ?_⟩
  · have hfirst := h.firstSegment ⟨⟨"t.me", ["durov", "123456"]⟩, "/durov/123456"⟩ "durov" (by rfl) (by decide +kernel)
      (by decide +kernel) (by decide +kernel) (by decide)
    exact absurd hfirst (by decide +kernel)
  · rcases (h.username "durov" (by decide +kernel)).2 with hname | hname | ⟨uri, hlink, htelegram, -⟩
    · exact absurd hname (by decide)
    · exact absurd hname (by decide)
    · have hhost : linkOf .plain .plain "https://not.me/durov" = some ⟨⟨"not.me", ["durov"]⟩, "/durov"⟩ := by rfl
      cases hhost.symm.trans hlink
      exact absurd htelegram (by decide +kernel)

end RioGram.Search
