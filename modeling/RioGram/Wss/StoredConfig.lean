import RioGram.Core.Overlay
import RioGram.Wss.UrlRewriter

/-!
# The configuration that is stored

`writeConfig` of the hook lays an object over the defaults, stores the result as JSON and returns it;
`readConfig` lays what it finds over the defaults again.  Here a configuration is the whole object, whatever
its fields are, and `Hook.writeObject_view` says that the rewriters see of it what they see of the record.

* `Hook.readObject_writeObject` — what is read after a write.  The second merge adds nothing, so there is the
  guard of `readConfig` only: a page that could be its own proxy does not stay without one.
* `normalizeBase_eq` — what `normalizeProxyBase` makes of a URL that has something behind its scheme.
-/

namespace RioGram

open Wire Js Trimming PartialMap

namespace Wss

/-- The values of an object that JSON keeps as they are. -/
inductive Value where
  | null
  | bool (b : Bool)
  | num (n : ℤ)
  | str (s : Str)
  deriving DecidableEq, Repr

/-- `!value`, also of a field that is missing. -/
def Value.isFalsy : Option Value → Bool
  | none => true
  | some .null => true
  | some (.bool b) => !b
  | some (.num n) => n = 0
  | some (.str s) => s = []

/-- A configuration object. -/
abbrev ConfigObject := Str → Option Value

namespace Hook

/-- `defaultConfig`, with all its fields. -/
def defaultObject (location : Option Location) : ConfigObject :=
  let autoUrl := sameOriginProxyUrl location
  put (Js.ascii "enabled") (.bool (autoUrl ≠ []))
    (put (Js.ascii "url") (.str autoUrl)
      (put (Js.ascii "autoReconnect") (.bool true)
        (put (Js.ascii "maxReconnectAttempts") (.num 5)
          (put (Js.ascii "reconnectDelayMs") (.num 2000) empty))))

/-- `writeConfig`: what is stored, and returned. -/
def writeObject (location : Option Location) (config : ConfigObject) : ConfigObject :=
  overlay config (defaultObject location)

/-- The guard of `readConfig`: disabled, without a URL, on a page that could be the proxy. -/
def TakesPage (location : Option Location) (parsed : ConfigObject) : Prop :=
  parsed (Js.ascii "enabled") = some (.bool false) ∧ Value.isFalsy (parsed (Js.ascii "url")) = true ∧
    sameOriginProxyUrl location ≠ []

instance (location : Option Location) (parsed : ConfigObject) : Decidable (TakesPage location parsed) :=
  inferInstanceAs (Decidable (_ ∧ _ ∧ _))

/-- `readConfig`, with the item of `localStorage` if there is one. -/
def readObject (location : Option Location) (stored : Option ConfigObject) : ConfigObject :=
  match stored with
  | none => defaultObject location
  | some parsed =>
      if TakesPage location parsed then defaultObject location
      else overlay parsed (defaultObject location)

/-! ## Reading what was written -/

/-- **What is read after a write**: what was written, unless the page takes the proxy's place. -/
theorem readObject_writeObject (location : Option Location) (config : ConfigObject) :
    readObject location (some (writeObject location config)) =
      if TakesPage location (writeObject location config) then defaultObject location
      else writeObject location config := by
  rw [readObject, writeObject, overlay_overlay_right]

/-- What the page puts in place of the object is another one. -/
lemma TakesPage.defaultObject_ne {location : Option Location} {parsed : ConfigObject}
    (h : TakesPage location parsed) : defaultObject location ≠ parsed := by
  intro heq
  have henabled : defaultObject location (Js.ascii "enabled") = some (.bool true) := by
    rw [defaultObject, put_self, decide_eq_true h.2.2]
  rw [heq, h.1] at henabled
  cases henabled

/-- **The object that was written is read** exactly if the page does not take the proxy's place. -/
theorem readObject_eq_writeObject_iff (location : Option Location) (config : ConfigObject) :
    readObject location (some (writeObject location config)) = writeObject location config ↔
      ¬ TakesPage location (writeObject location config) := by
  rw [readObject_writeObject]
  split_ifs with h
  · exact iff_of_false h.defaultObject_ne (not_not.mpr h)
  · exact iff_of_true rfl h

/-! ## The record of the rewriters -/

/-- The object of a record, whose fields may be missing. -/
def object (config : ConfigJson) : ConfigObject := fun field =>
  if field = Js.ascii "enabled" then config.enabled.map .bool
  else if field = Js.ascii "url" then config.url.map .str
  else none

/-- What the rewriters read of an object. -/
def view (config : ConfigObject) : WssProxyConfig where
  enabled := !Value.isFalsy (config (Js.ascii "enabled"))
  url := match config (Js.ascii "url") with
    | some (.str url) => url
    | _ => []

/-- The rewriters see of the object what they see of the record. -/
lemma writeObject_view (location : Option Location) (config : ConfigJson) :
    view (writeObject location (object config)) = writeConfig location config := by
  have hurl : Js.ascii "url" ≠ Js.ascii "enabled" := by decide
  have henabled : writeObject location (object config) (Js.ascii "enabled") =
      some (.bool (config.enabled.getD (sameOriginProxyUrl location ≠ []))) := by
    rw [writeObject, overlay, object, if_pos rfl, defaultObject, put_self]
    cases config.enabled <;> rfl
  have hstored : writeObject location (object config) (Js.ascii "url") =
      some (.str (config.url.getD (sameOriginProxyUrl location))) := by
    rw [writeObject, overlay, object, if_neg hurl, if_pos rfl, defaultObject, put_of_ne hurl, put_self]
    cases config.url <;> rfl
  rw [view, henabled, hstored]
  simp [writeConfig, WssProxyConfig.assign, defaultConfig, Value.isFalsy]

end Hook

/-! ## Base URLs -/

/-- The scheme that `normalizeProxyBase` gives a URL. -/
def schemeOf (value : Str) : Str :=
  if (Js.ascii "http://").isPrefixOf value ∨ (Js.ascii "ws://").isPrefixOf value then Js.ascii "ws://"
  else Js.ascii "wss://"

/-- What is behind the scheme of a URL. -/
def behindScheme (value : Str) : Str :=
  if (Js.ascii "https://").isPrefixOf value then value.drop 8
  else if (Js.ascii "http://").isPrefixOf value then value.drop 7
  else if (Js.ascii "wss://").isPrefixOf value then value.drop 6
  else if (Js.ascii "ws://").isPrefixOf value then value.drop 5
  else value

/-- Behind the scheme there is something other than slashes, and no white space before the slashes at the
end. -/
def EndsInHost (space : UInt16 → Bool) (value : Str) : Prop :=
  ∃ c, ((behindScheme value).rdropWhile (· = 47)).getLast? = some c ∧ space c = false

/-- What a base URL should be. -/
def IsProxyBase (base : Str) : Prop :=
  ∃ scheme ∈ [Js.ascii "wss://", Js.ascii "ws://"], ∃ rest, base = scheme ++ rest ∧ rest ≠ [] ∧
    rest.getLast? ≠ some 47

lemma schemeOf_mem (value : Str) : schemeOf value ∈ [Js.ascii "wss://", Js.ascii "ws://"] := by
  rw [schemeOf]
  split_ifs
  · exact List.mem_cons_of_mem _ List.mem_cons_self
  · exact List.mem_cons_self

/-- **The base URL** is the scheme and what is behind it, without the slashes at the end. -/
lemma normalizeBase_eq (value : Str) :
    normalizeBase value = (schemeOf value ++ behindScheme value).rdropWhile (· = 47) := by
  unfold normalizeBase schemeOf behindScheme
  by_cases hhttps : (Js.ascii "https://").isPrefixOf value
  · obtain ⟨rest, rfl⟩ := List.isPrefixOf_iff_prefix.mp hhttps
    rfl
  by_cases hhttp : (Js.ascii "http://").isPrefixOf value
  · simp only [hhttps, hhttp, Bool.false_eq_true, if_false, if_true, true_or]
  by_cases hwss : (Js.ascii "wss://").isPrefixOf value
  · obtain ⟨rest, rfl⟩ := List.isPrefixOf_iff_prefix.mp hwss
    rfl
  by_cases hws : (Js.ascii "ws://").isPrefixOf value
  · obtain ⟨rest, rfl⟩ := List.isPrefixOf_iff_prefix.mp hws
    rfl
  · simp only [hhttps, hhttp, hwss, hws, Bool.false_eq_true, if_false, not_false_eq_true, and_self, if_true,
      or_self]

/-- A base URL stays as it is. -/
lemma IsProxyBase.normalizeBase_eq {base : Str} (h : IsProxyBase base) : normalizeBase base = base := by
  obtain ⟨scheme, hscheme, rest, rfl, hne, hlast⟩ := h
  have hsame : schemeOf (scheme ++ rest) ++ behindScheme (scheme ++ rest) = scheme ++ rest := by
    simp only [List.mem_cons, List.not_mem_nil, or_false] at hscheme
    rcases hscheme with rfl | rfl <;> rfl
  have hrest : rest.rdropWhile (· = 47) = rest := by
    refine List.rdropWhile_eq_self_iff.mpr fun hrest hslash => hlast ?_
    rw [List.getLast?_eq_some_getLast hrest, of_decide_eq_true hslash]
  rw [Wss.normalizeBase_eq, hsame, rdropWhile_append, hrest, if_neg hne]

section Normalized

variable {space : UInt16 → Bool} {value : Str}

/-- With a host at its end a URL becomes a base URL, which has nothing to be trimmed. -/
lemma EndsInHost.isProxyBase (h : EndsInHost space value) : IsProxyBase (normalizeBase value) := by
  obtain ⟨c, hlast, -⟩ := h
  have hne : (behindScheme value).rdropWhile (· = 47) ≠ [] := by
    intro hnil
    rw [hnil] at hlast
    cases hlast
  refine ⟨_, schemeOf_mem value, (behindScheme value).rdropWhile (· = 47), ?_, hne, ?_⟩
  · rw [normalizeBase_eq, rdropWhile_append, if_neg hne]
  · rw [List.getLast?_eq_some_getLast hne]
    intro hslash
    exact List.rdropWhile_last_not _ _ hne (decide_eq_true (Option.some.inj hslash))

lemma EndsInHost.trimBy_eq (h : EndsInHost space value)
    (hscheme : ∀ scheme ∈ [Js.ascii "wss://", Js.ascii "ws://"], scheme.any space = false) :
    trimBy space (normalizeBase value) = normalizeBase value := by
  obtain ⟨c, hlast, hspace⟩ := h
  have hne : (behindScheme value).rdropWhile (· = 47) ≠ [] := by
    intro hnil
    rw [hnil] at hlast
    cases hlast
  have hschemeNe : schemeOf value ≠ [] := by
    have := schemeOf_mem value
    intro hnil
    rw [hnil] at this
    exact absurd this (by decide)
  have hnone : ∀ c ∈ schemeOf value, space c = false := by
    simpa using List.any_eq_false.mp (hscheme _ (schemeOf_mem value))
  rw [normalizeBase_eq, rdropWhile_append, if_neg hne, trimBy_append hschemeNe hnone]
  congr 1
  refine List.rdropWhile_eq_self_iff.mpr fun hrest hlastSpace => ?_
  rw [List.getLast?_eq_some_getLast hrest] at hlast
  rw [Option.some.inj hlast, hspace] at hlastSpace
  cases hlastSpace

end Normalized

/-- `normalize` makes a base URL of `raw`, and leaves that one as it is. -/
def NormalizesTo (normalize : Str → Option Str) (raw : Str) : Prop :=
  ∃ base, normalize raw = some base ∧ IsProxyBase base ∧ normalize base = some base

lemma IsProxyBase.ne_nil {base : Str} (h : IsProxyBase base) : base ≠ [] := by
  obtain ⟨scheme, -, rest, rfl, hne, -⟩ := h
  exact List.append_ne_nil_of_right_ne_nil _ hne

lemma Hook.normalizesTo {raw : Str} (h : EndsInHost isSpace (trim raw)) :
    NormalizesTo Hook.normalizeProxyBase raw := by
  have hbase := h.isProxyBase
  have htrim : trim (normalizeBase (trim raw)) = normalizeBase (trim raw) := h.trimBy_eq (by decide)
  have hne : trim raw ≠ [] := by
    intro hnil
    rw [hnil] at h
    obtain ⟨c, hc, -⟩ := h
    cases hc
  refine ⟨_, if_neg hne, hbase, ?_⟩
  rw [Hook.normalizeProxyBase, htrim, if_neg hbase.ne_nil, hbase.normalizeBase_eq]

lemma WssUrlRewriter.normalizesTo {raw : Str} (h : EndsInHost isSpaceDart (trimDart raw)) :
    NormalizesTo WssUrlRewriter.normalizeProxyBase raw := by
  have hbase := h.isProxyBase
  have htrim : trimDart (normalizeBase (trimDart raw)) = normalizeBase (trimDart raw) := h.trimBy_eq (by decide)
  have hne : trimDart raw ≠ [] := by
    intro hnil
    rw [hnil] at h
    obtain ⟨c, hc, -⟩ := h
    cases hc
  refine ⟨_, if_neg hne, hbase, ?_⟩
  rw [WssUrlRewriter.normalizeProxyBase, htrim, if_neg hbase.ne_nil, hbase.normalizeBase_eq]

/-- **The configuration and its URL.**  What was written is read again unless the page takes the place of a
proxy that is disabled and has no URL; and a URL with a host becomes a base URL once and for all. -/
theorem config_kept (location : Option Location) (config : ConfigObject) (raw : Str) :
    Hook.readObject location (some (Hook.writeObject location config)) =
        (if Hook.TakesPage location (Hook.writeObject location config) then Hook.defaultObject location
        else Hook.writeObject location config) ∧
      ((trim raw = [] → Hook.normalizeProxyBase raw = none) ∧
        (EndsInHost isSpace (trim raw) → NormalizesTo Hook.normalizeProxyBase raw)) ∧
      ((trimDart raw = [] → WssUrlRewriter.normalizeProxyBase raw = none) ∧
        (EndsInHost isSpaceDart (trimDart raw) → NormalizesTo WssUrlRewriter.normalizeProxyBase raw)) :=
  ⟨Hook.readObject_writeObject location config, ⟨fun h => if_pos h, Hook.normalizesTo⟩,
    ⟨fun h => if_pos h, WssUrlRewriter.normalizesTo⟩⟩

/-- A page that could be its own proxy. -/
def securePage : Location where
  protocol := Js.ascii "https:"
  host := Js.ascii "app.example"
  href := Js.ascii "https://app.example/"

/-- On that page a proxy that was written as disabled, without a URL, is read as enabled.  And a URL that is
a scheme only loses the slashes of the scheme, one with white space before its slashes is trimmed later. -/
theorem disabled_config_read_enabled :
    let written := Hook.writeObject (some securePage) (Hook.object { enabled := some false, url := some [] })
    written (Js.ascii "enabled") = some (.bool false) ∧
      Hook.readObject (some securePage) (some written) (Js.ascii "enabled") = some (.bool true) ∧
      Hook.readObject (some securePage) (some written) ≠ written ∧
      Hook.normalizeProxyBase (Js.ascii "https://") = some (Js.ascii "wss:") ∧
      Hook.normalizeProxyBase (Js.ascii "a /") = some (Js.ascii "wss://a ") ∧
      Hook.normalizeProxyBase (Js.ascii "wss://a ") = some (Js.ascii "wss://a") := by
  intro written
  have hwritten : written (Js.ascii "enabled") = some (.bool false) := by decide
  have hread : Hook.readObject (some securePage) (some written) (Js.ascii "enabled") = some (.bool true) := by
    decide
  refine ⟨hwritten, hread, fun heq => ?_, by decide, by decide, by decide⟩
  rw [heq, hwritten] at hread
  cases hread

end Wss

end RioGram
