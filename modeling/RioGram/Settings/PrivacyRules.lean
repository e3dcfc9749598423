import Mathlib.Data.Fintype.EquivFin
import RioGram.Core.FirstMatch
import RioGram.Core.Overlay
import RioGram.Settings.Requests

/-!
# Rules of privacy

TDLib has for each setting a list of rules about who is allowed, of which the first one that matches a user decides.
`PrivacySettingsManager` shows a list as one of three presets, for which it looks at what is in it in any order, and
sets a preset in place of the whole list.

* `TellsTruth` — the preset says who is allowed, and setting one leaves users alone that a rule is about.
* `tellsTruth_iff` says for which lists it is so, and `restricted_shown_as_everybody` has lists for which it is not.
-/

namespace RioGram.Settings

open FirstMatch PartialMap

/-! ## Rules -/

/-- `UserPrivacySettingRule` of TDLib. -/
inductive PrivacyRule where
  | allowAll
  | allowContacts
  | allowBots
  | allowPremiumUsers
  | allowUsers (userIds : List ℤ)
  | allowChatMembers (chatIds : List ℤ)
  | restrictAll
  | restrictContacts
  | restrictBots
  | restrictUsers (userIds : List ℤ)
  | restrictChatMembers (chatIds : List ℤ)
deriving DecidableEq

/-- What the rules look at. -/
structure PrivacyUser where
  id : ℤ
  isContact : Bool
  isBot : Bool := false
  isPremium : Bool := false
  /-- The chats that the user is a member of. -/
  chats : List ℤ := []

namespace PrivacyRule

/-- The rule is an exception for the user. -/
def names : PrivacyRule → PrivacyUser → Bool
  | allowUsers userIds, user | restrictUsers userIds, user => userIds.contains user.id
  | allowChatMembers chatIds, user | restrictChatMembers chatIds, user => user.chats.any chatIds.contains
  | _, _ => false

def hits (rule : PrivacyRule) (user : PrivacyUser) : Bool :=
  match rule with
  | allowAll | restrictAll => true
  | allowContacts | restrictContacts => user.isContact
  | allowBots | restrictBots => user.isBot
  | allowPremiumUsers => user.isPremium
  | _ => rule.names user

def allows : PrivacyRule → Bool
  | allowAll | allowContacts | allowBots | allowPremiumUsers | allowUsers _ | allowChatMembers _ => true
  | _ => false

/-- The rules for all. -/
def isForAll (rule : PrivacyRule) : Bool := rule = allowAll || rule = restrictAll

/-- The rules for all and those for contacts. -/
def isGeneral (rule : PrivacyRule) : Bool := rule.isForAll || rule = allowContacts || rule = restrictContacts

end PrivacyRule

/-- Who is allowed by TDLib. -/
def isAllowed (rules : List PrivacyRule) (user : PrivacyUser) : Bool :=
  allowed PrivacyRule.hits PrivacyRule.allows rules user

/-- A rule of the list is an exception for the user. -/
def Named (rules : List PrivacyRule) (user : PrivacyUser) : Prop := ∃ rule ∈ rules, rule.names user

/-- A user whom only the rules for all and for contacts are about. -/
def Ordinary (rules : List PrivacyRule) (user : PrivacyUser) : Prop :=
  user.isBot = false ∧ user.isPremium = false ∧ ¬Named rules user

/-! ## Presets -/

inductive PrivacyRulePreset where
  | everybody | contacts | nobody
deriving DecidableEq

/-- The mode of the setting is not looked at. -/
def PrivacyRulePreset.toTdlibRules (_allowMode : Bool) : PrivacyRulePreset → List PrivacyRule
  | everybody => [.allowAll]
  | contacts => [.allowContacts]
  | nobody => [.restrictAll]

/-- What a preset says. -/
def PrivacyRulePreset.admits : PrivacyRulePreset → PrivacyUser → Bool
  | everybody, _ => true
  | contacts, user => user.isContact
  | nobody, _ => false

/-- The mode of the setting is not looked at. -/
def detectPreset (_allowMode : Bool) (rules : List PrivacyRule) : PrivacyRulePreset :=
  if .allowAll ∈ rules then .everybody
  else if .allowContacts ∈ rules then .contacts
  else .nobody

def usesAllowMode : PrivacySettingKind → Bool
  | .showPhoneNumber | .showProfilePhoto | .showStatus => true
  | .allowChatInvites | .allowCalls | .allowFindingByPhoneNumber => false

/-- The part of the manager that is about the rules. -/
structure PrivacyRulesManager where
  rulesBySetting : PrivacySettingKind → Option (List PrivacyRule) := PartialMap.empty
  /-- The rules that were sent to be set. -/
  sent : List (PrivacySettingKind × List PrivacyRule) := []

namespace PrivacyRulesManager

variable (m : PrivacyRulesManager) (setting : PrivacySettingKind) (rules : List PrivacyRule)
  (preset : PrivacyRulePreset)

def presetFor : PrivacyRulePreset :=
  match m.rulesBySetting setting with
  | none => .everybody
  | some rules => detectPreset (usesAllowMode setting) rules

def setPreset : PrivacyRulesManager :=
  { m with sent := m.sent ++ [(setting, preset.toTdlibRules (usesAllowMode setting))] }

/-- The answer to a request of the manager, or an update. -/
def handleRules : PrivacyRulesManager := { m with rulesBySetting := put setting rules m.rulesBySetting }

/-- The shown preset is what ordinary users are allowed, and users whom a rule names are allowed what they were when
another preset is set. -/
structure TellsTruth : Prop where
  shown : ∀ contact stranger, Ordinary rules contact → contact.isContact → Ordinary rules stranger →
    stranger.isContact = false →
      ((m.handleRules setting rules).presetFor setting = .everybody ↔
        isAllowed rules contact ∧ isAllowed rules stranger) ∧
      ((m.handleRules setting rules).presetFor setting = .contacts ↔
        isAllowed rules contact ∧ ¬isAllowed rules stranger) ∧
      ((m.handleRules setting rules).presetFor setting = .nobody ↔
        ¬isAllowed rules contact ∧ ¬isAllowed rules stranger)
  kept : ∀ newRules, ((m.handleRules setting rules).setPreset setting preset).sent = m.sent ++ [(setting, newRules)] →
    ∀ user, Named rules user → isAllowed newRules user = isAllowed rules user

end PrivacyRulesManager

/-- Of the rules for all and for contacts the first one allows, if any does; and of the rules for all the first one
does. -/
structure AllowingFirst (rules : List PrivacyRule) : Prop where
  contacts : .allowAll ∈ rules ∨ .allowContacts ∈ rules → (rules.find? (·.isGeneral)).any (·.allows)
  strangers : .allowAll ∈ rules → (rules.find? (·.isForAll)).any (·.allows)

/-- The rules in force for users whom a rule names are as the preset. -/
def ExceptionsAgree (rules : List PrivacyRule) (preset : PrivacyRulePreset) : Prop :=
  ∀ user, Named rules user → ∀ rule, InForce PrivacyRule.hits rules rule user → rule.allows = preset.admits user

/-! ## When the truth is told -/

variable {rules : List PrivacyRule} {user : PrivacyUser} {preset : PrivacyRulePreset}

lemma isAllowed_toTdlibRules (allowMode : Bool) (preset : PrivacyRulePreset) (user : PrivacyUser) :
    isAllowed (preset.toTdlibRules allowMode) user = preset.admits user := by
  cases preset with
  | everybody => rfl
  | contacts =>
      rw [isAllowed, allowed, PrivacyRulePreset.toTdlibRules, List.find?_singleton]
      cases h : user.isContact <;> simp [PrivacyRulePreset.admits, PrivacyRule.hits, PrivacyRule.allows, h]
  | nobody => rfl

/-- Only the general rules match an ordinary user. -/
lemma hits_eq_of_ordinary (h : Ordinary rules user) {rule : PrivacyRule} (hrule : rule ∈ rules) :
    rule.hits user = if user.isContact then rule.isGeneral else rule.isForAll := by
  have hnames : rule.names user = false := Bool.eq_false_iff.mpr fun hnames => h.2.2 ⟨rule, hrule, hnames⟩
  rcases h with ⟨hbot, hpremium, -⟩
  cases rule <;> cases hcontact : user.isContact <;>
    simp_all [PrivacyRule.hits, PrivacyRule.isGeneral, PrivacyRule.isForAll, PrivacyRule.names]

lemma isAllowed_contact (h : Ordinary rules user) (hcontact : user.isContact) :
    isAllowed rules user = (rules.find? (·.isGeneral)).any (·.allows) :=
  allowed_congr fun rule hrule => by rw [hits_eq_of_ordinary h hrule, if_pos hcontact]

lemma isAllowed_stranger (h : Ordinary rules user) (hcontact : user.isContact = false) :
    isAllowed rules user = (rules.find? (·.isForAll)).any (·.allows) :=
  allowed_congr fun rule hrule => by rw [hits_eq_of_ordinary h hrule, hcontact, if_neg Bool.false_ne_true]

/-- Contacts are only allowed by a rule for all or for them. -/
lemma mem_of_contacts (h : (rules.find? (·.isGeneral)).any (·.allows)) :
    .allowAll ∈ rules ∨ .allowContacts ∈ rules := by
  rcases (Option.any_eq_true _ _).mp h with ⟨rule, hfind, hallows⟩
  have hmem := List.mem_of_find?_eq_some hfind
  have hgeneral := List.find?_some hfind
  cases rule <;> simp_all [PrivacyRule.isGeneral, PrivacyRule.isForAll, PrivacyRule.allows]

lemma mem_of_strangers (h : (rules.find? (·.isForAll)).any (·.allows)) : .allowAll ∈ rules := by
  rcases (Option.any_eq_true _ _).mp h with ⟨rule, hfind, hallows⟩
  have hmem := List.mem_of_find?_eq_some hfind
  have hforAll := List.find?_some hfind
  cases rule <;> simp_all [PrivacyRule.isForAll, PrivacyRule.allows]

/-- The users that a rule has a list of. -/
def PrivacyRule.userIds : PrivacyRule → List ℤ
  | allowUsers userIds | restrictUsers userIds => userIds
  | _ => []

/-- There are contacts and others whom no rule names. -/
lemma exists_ordinary (rules : List PrivacyRule) (isContact : Bool) :
    ∃ user, Ordinary rules user ∧ user.isContact = isContact := by
  rcases Infinite.exists_notMem_finset (rules.flatMap PrivacyRule.userIds).toFinset with ⟨id, hid⟩
  refine ⟨{ id, isContact }, ⟨rfl, rfl, ?_⟩, rfl⟩
  rintro ⟨rule, hrule, hnames⟩
  refine hid (List.mem_toFinset.mpr (List.mem_flatMap.mpr ⟨rule, hrule, ?_⟩))
  cases rule <;> simp_all [PrivacyRule.names, PrivacyRule.userIds]

lemma detectPreset_eq_everybody_iff {allowMode : Bool} :
    detectPreset allowMode rules = .everybody ↔ .allowAll ∈ rules := by
  rw [detectPreset]
  split_ifs <;> simp [*]

lemma detectPreset_eq_contacts_iff {allowMode : Bool} :
    detectPreset allowMode rules = .contacts ↔ .allowAll ∉ rules ∧ .allowContacts ∈ rules := by
  rw [detectPreset]
  split_ifs <;> simp [*]

lemma detectPreset_eq_nobody_iff {allowMode : Bool} :
    detectPreset allowMode rules = .nobody ↔ .allowAll ∉ rules ∧ .allowContacts ∉ rules := by
  rw [detectPreset]
  split_ifs <;> simp [*]

/-- **When the detected preset is right.** -/
lemma detected_iff (allowMode : Bool) :
    (∀ contact stranger, Ordinary rules contact → contact.isContact → Ordinary rules stranger →
      stranger.isContact = false →
        (detectPreset allowMode rules = .everybody ↔ isAllowed rules contact ∧ isAllowed rules stranger) ∧
        (detectPreset allowMode rules = .contacts ↔ isAllowed rules contact ∧ ¬isAllowed rules stranger) ∧
        (detectPreset allowMode rules = .nobody ↔ ¬isAllowed rules contact ∧ ¬isAllowed rules stranger)) ↔
      AllowingFirst rules := by
  simp only [detectPreset_eq_everybody_iff, detectPreset_eq_contacts_iff, detectPreset_eq_nobody_iff]
  constructor
  · intro h
    rcases exists_ordinary rules true with ⟨contact, hcontact, hcontact'⟩
    rcases exists_ordinary rules false with ⟨stranger, hstranger, hstranger'⟩
    rcases h contact stranger hcontact hcontact' hstranger hstranger' with ⟨heverybody, hcontacts, -⟩
    rw [isAllowed_contact hcontact hcontact', isAllowed_stranger hstranger hstranger'] at heverybody hcontacts
    refine ⟨?_, fun hall => (heverybody.mp hall).2⟩
    intro hmem
    by_cases hall : .allowAll ∈ rules
    · exact (heverybody.mp hall).1
    · exact (hcontacts.mp ⟨hall, hmem.resolve_left hall⟩).1
  · rintro ⟨hcontacts, hstrangers⟩ contact stranger hcontact hcontact' hstranger hstranger'
    rw [isAllowed_contact hcontact hcontact', isAllowed_stranger hstranger hstranger']
    have hmem := @mem_of_contacts rules
    have hmem' := @mem_of_strangers rules
    tauto

/-- **When the exceptions are kept.** -/
lemma kept_iff (allowMode : Bool) :
    (∀ user, Named rules user → isAllowed (preset.toTdlibRules allowMode) user = isAllowed rules user) ↔
      ExceptionsAgree rules preset := by
  refine forall_congr' fun user => forall_congr' fun hnamed => ?_
  rw [isAllowed_toTdlibRules]
  constructor
  · intro h rule hrule
    exact (allowed_eq_of_inForce hrule).symm.trans h.symm
  · intro h
    rcases hnamed with ⟨rule, hmem, hnames⟩
    have hhits : rule.hits user := by
      cases rule <;> first | exact hnames | cases hnames
    rcases exists_inForce hmem hhits with ⟨rule', hrule'⟩
    exact (h rule' hrule').symm.trans (allowed_eq_of_inForce hrule').symm

namespace PrivacyRulesManager

/-- **When presets tell the truth**: what allows stands before what restricts, and the rules that are in force for
the users they name are as the preset that is set. -/
theorem tellsTruth_iff (m : PrivacyRulesManager) (setting : PrivacySettingKind) (rules : List PrivacyRule)
    (preset : PrivacyRulePreset) :
    m.TellsTruth setting rules preset ↔ AllowingFirst rules ∧ ExceptionsAgree rules preset := by
  have hpreset : (m.handleRules setting rules).presetFor setting = detectPreset (usesAllowMode setting) rules := by
    simp only [presetFor, handleRules, put_self]
  rw [← detected_iff (usesAllowMode setting), ← kept_iff (usesAllowMode setting)]
  constructor
  · rintro ⟨hshown, hkept⟩
    rw [hpreset] at hshown
    exact ⟨hshown, hkept _ rfl⟩
  · rintro ⟨hdetected, hexceptions⟩
    refine ⟨?_, ?_⟩
    · rw [hpreset]
      exact hdetected
    · intro newRules hsent
      have hrules := List.append_cancel_left hsent
      rw [List.singleton_inj, Prod.mk.injEq] at hrules
      rw [← hrules.2]
      exact hexceptions

/-- Contacts are restricted, and the shown preset is the one that allows everybody; and the user of an exception is
allowed what was not allowed when the shown preset is set again. -/
theorem restricted_shown_as_everybody :
    let restricted := [.restrictContacts, .allowAll]
    let excepted := [.restrictUsers [7], .allowAll]
    (handleRules {} .showStatus restricted).presetFor .showStatus = .everybody ∧
      isAllowed restricted { id := 5, isContact := true } = false ∧
      ¬TellsTruth {} .showStatus restricted .everybody ∧
      (handleRules {} .showStatus excepted).presetFor .showStatus = .everybody ∧
      ¬TellsTruth {} .showStatus excepted .everybody := by
  refine ⟨by decide, by decide, fun h => ?_, by decide, fun h => ?_⟩
  · rcases exists_ordinary [.restrictContacts, .allowAll] true with ⟨contact, hcontact, hcontact'⟩
    rcases exists_ordinary [.restrictContacts, .allowAll] false with ⟨stranger, hstranger, hstranger'⟩
    have hallowed := ((h.shown contact stranger hcontact hcontact' hstranger hstranger').1.mp (by decide)).1
    rw [isAllowed_contact hcontact hcontact'] at hallowed
    exact absurd hallowed (by decide)
  · have hkept := h.kept _ rfl { id := 7, isContact := false } ⟨_, List.mem_cons_self, by decide⟩
    exact absurd hkept (by decide)

end PrivacyRulesManager

end RioGram.Settings
