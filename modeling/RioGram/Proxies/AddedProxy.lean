import RioGram.Net.Creator.Handlers
import RioGram.Proxies.Manager
import RioGram.Utils.Base64Spelling

/-!
# A registered proxy, from TDLib to the app

TDLib answers `addProxy` with an `addedProxy` object, which has the stored proxy in its field `proxy`.
It comes to the app as JSON, and the app reads `server`, `port` and `type` at its top level, where they
are not.

* `registerAddedProxy_shows_iff` — an entry shows the address of the stored proxy only if the manager
  itself holds that address.
-/

namespace RioGram

open Wire

/-! ## What TDLib sends -/

/-- `hex_encode`. -/
def hexEncode (raw : Bytes) : Bytes :=
  raw.flatMap fun b => [hex (b.toNat / 16), hex (b.toNat % 16)]
where
  hex (n : ℕ) : UInt8 := UInt8.ofNat (if n < 10 then 48 + n else 87 + n)

/-- A text of ASCII bytes. -/
def asciiText (bytes : Bytes) : String := String.ofList (bytes.map fun b => Char.ofNat b.toNat)

/-- `get_encoded_secret`. -/
def ProxySecret.getEncodedSecret (secret : ProxySecret) : String :=
  asciiText (if secret.emulateTls then base64Groups true secret.raw else hexEncode secret.raw)

/-- `get_proxy_object`, which is called for a proxy that is in use. -/
def Proxy.getProxyObject (proxy : Proxy) : InputProxy where
  server := proxy.server
  port := proxy.port
  type := match proxy.type with
    | .socks5 => some (.socks5 proxy.user proxy.password)
    | .httpTcp => some (.http proxy.user proxy.password false)
    | .httpCaching => some (.http proxy.user proxy.password true)
    | .mtproto => some (.mtproto proxy.secret.getEncodedSecret)
    | .none => none

/-! ## JSON -/

/-- JSON values; an object is a list of fields. -/
inductive Json where
  | null
  | bool (value : Bool)
  | number (value : ℤ)
  | string (value : String)
  | object (fields : List (String × Json))

/-- The fields of an object. -/
abbrev JsonObject := List (String × Json)

def InputProxyType.toJson : InputProxyType → Json
  | .socks5 username password =>
      .object [("@type", .string "proxyTypeSocks5"), ("username", .string username),
        ("password", .string password)]
  | .http username password httpOnly =>
      .object [("@type", .string "proxyTypeHttp"), ("username", .string username),
        ("password", .string password), ("http_only", .bool httpOnly)]
  | .mtproto secret => .object [("@type", .string "proxyTypeMtproto"), ("secret", .string secret)]

def InputProxy.toJson (proxy : InputProxy) : Json :=
  .object ([("@type", .string "proxy"), ("server", .string proxy.server),
    ("port", .number proxy.port)] ++ (proxy.type.map fun type => ("type", type.toJson)).toList)

/-- The `addedProxy` object, which also says when the proxy was last used. -/
def ConnectionCreator.AddedProxy.toJson (added : AddedProxy) (lastUsedDate : ℤ) : JsonObject :=
  [("@type", .string "addedProxy"), ("id", .number added.id),
    ("last_used_date", .number lastUsedDate), ("is_enabled", .bool added.isEnabled),
    ("comment", .string added.comment), ("proxy", added.proxy.getProxyObject.toJson)]

end RioGram

namespace RioGram.Proxies

/-! ## What the app reads -/

/-- `as String?`, on what is not of another type. -/
def asString : Option Json → Option String
  | some (.string value) => some value
  | _ => none

/-- `as bool?`, on what is not of another type. -/
def asBool : Option Json → Option Bool
  | some (.bool value) => some value
  | _ => none

def tdInt : Option Json → Option ℤ
  | some (.number value) => some value
  | some (.string value) => value.toInt?
  | _ => none

/-- The type of a proxy, as requests with it are read by TDLib. -/
def proxyTypeOf : Option Json → Option PayloadType
  | some (.object fields) =>
      match asString (fields.lookup "@type") with
      | some "proxyTypeSocks5" =>
          some (.socks5 ((asString (fields.lookup "username")).getD "")
            ((asString (fields.lookup "password")).getD ""))
      | some "proxyTypeHttp" =>
          some (.http ((asString (fields.lookup "username")).getD "")
            ((asString (fields.lookup "password")).getD "")
            ((asBool (fields.lookup "http_only")).getD false))
      | some "proxyTypeMtproto" => some (.mtproto ((asString (fields.lookup "secret")).getD ""))
      | _ => none
  | _ => none

/-- The update that a reply is, with the fields that `_registerAddedProxy` takes from it. -/
def addedProxyUpdate (addedProxy : JsonObject) (extra : Option Extra) : Update where
  type := .addedProxy
  extra
  id := tdInt (addedProxy.lookup "id")
  server := asString (addedProxy.lookup "server")
  port := tdInt (addedProxy.lookup "port")
  proxyType := proxyTypeOf (addedProxy.lookup "type")

/-- The payload with which a proxy of TDLib would be pinged. -/
def payloadOf (proxy : InputProxy) : Option Payload :=
  proxy.type.map fun type =>
    { server := proxy.server, port := proxy.port
      type := match type with
        | .socks5 username password => .socks5 username password
        | .http username password httpOnly => .http username password httpOnly
        | .mtproto secret => .mtproto secret }

/-- The reply makes an entry with the address of the proxy and, if nothing else is known of it, a
payload that is the proxy. -/
def Shows (m : Manager) (reply : Update) (proxy : InputProxy) : Prop :=
  ∃ id entry, reply.id = some id ∧ (m.registerAddedProxy reply).proxies = m.proxies ++ [entry] ∧
    entry.id = id ∧ entry.host = proxy.server ∧ entry.port = proxy.port ∧
    ∀ origin m', m.takeOrigin reply.extra = some (origin, m') → origin.payload = none →
      (m.registerAddedProxy reply).proxyPayloadsById id = payloadOf proxy

/-- The address that the manager holds for what a reply is taken to be about: one of the configured
proxies, or the proxy of the system.  It holds none for the proxies of the user. -/
def heldAddress (m : Manager) : Option Extra → Option (String × ℤ)
  | some (.addProxy name) =>
      if name = "System" ∨ name = "Transport" then
        (m.pendingSystemProxy <|> m.systemProxy).map fun proxy => (proxy.host, proxy.port)
      else if m.pendingUserConfigs.any (·.name == name) then none
      else (m.pendingConfigs.find? (·.name == name)).map fun proxy => (proxy.host, proxy.port)
  | _ => m.pendingConfigs.head?.map fun proxy => (proxy.host, proxy.port)

/-! ## What is shown -/

/-- The address that is known of an origin. -/
def Manager.Origin.address (origin : Manager.Origin) : Option (String × ℤ) :=
  (origin.config.map fun proxy => (proxy.host, proxy.port)) <|>
    origin.systemConfig.map fun proxy => (proxy.host, proxy.port)

/-- What is held is the address of the origin. -/
lemma heldAddress_eq (m : Manager) (extra : Option Extra) :
    heldAddress m extra = (m.takeOrigin extra).bind (·.1.address) := by
  have hnext (hheld : heldAddress m extra = m.pendingConfigs.head?.map fun proxy => (proxy.host, proxy.port))
      (horigin : m.takeOrigin extra = m.takeOrigin none) :
      heldAddress m extra = (m.takeOrigin extra).bind (·.1.address) := by
    rw [hheld, horigin]
    cases hpending : m.pendingConfigs <;> simp [Manager.takeOrigin, hpending, Manager.Origin.address]
  cases extra with
  | none => exact hnext rfl rfl
  | some extra =>
      cases extra with
      | addProxy name =>
          simp only [heldAddress, Manager.takeOrigin]
          by_cases hsystem : name = "System"
          · simp [hsystem, Manager.Origin.address]
          · by_cases htransport : name = "Transport"
            · simp [htransport, Manager.Origin.address]
            · rw [if_neg (by simp [hsystem, htransport]), if_neg hsystem, if_neg htransport]
              cases huser : m.pendingUserConfigs.find? (·.name == name) with
              | some userConfig =>
                  have hname := List.find?_some huser
                  have hany : m.pendingUserConfigs.any (·.name == name) :=
                    List.any_eq_true.mpr ⟨userConfig, List.mem_of_find?_eq_some huser, hname⟩
                  simp [hany, Manager.Origin.address]
              | none =>
                  have hany : m.pendingUserConfigs.any (·.name == name) = false := by
                    rw [List.any_eq_false]
                    exact fun user huser' => List.find?_eq_none.mp huser user huser'
                  rw [if_neg (by simp [hany])]
                  cases m.pendingConfigs.find? (·.name == name) <;> simp [Manager.Origin.address]
      | _ => exact hnext rfl rfl

/-- With an address there is a payload. -/
lemma payload_of_address {m m' : Manager} {extra : Option Extra} {origin : Manager.Origin}
    (h : m.takeOrigin extra = some (origin, m')) (haddress : origin.address ≠ none) :
    origin.payload ≠ none := by
  simp only [Manager.takeOrigin] at h
  split at h
  · split_ifs at h
    · cases h
      simpa [Manager.Origin.address] using haddress
    · cases h
      simpa [Manager.Origin.address] using haddress
    · split at h
      · cases h
        simp
      · split at h <;> cases h
        simp
  · split at h <;> cases h
    simp

/-- At its top level the reply has none of the fields that are looked for. -/
lemma addedProxyUpdate_toJson (added : ConnectionCreator.AddedProxy) (lastUsedDate : ℤ) (extra : Option Extra) :
    addedProxyUpdate (added.toJson lastUsedDate) extra =
      { type := .addedProxy, extra, id := some added.id } := rfl

/-- With nothing but an id, the entry has the address that is known of the origin. -/
lemma registerAddedProxy_proxies {m m' : Manager} {extra : Option Extra} {origin : Manager.Origin}
    (h : m.takeOrigin extra = some (origin, m')) (id : ℤ) :
    (m.registerAddedProxy { type := .addedProxy, extra, id := some id }).proxies = m.proxies ++
      [{ id, name := origin.displayName, host := (origin.address.map (·.1)).getD "",
         port := (origin.address.map (·.2)).getD 0 }] := by
  have hproxies : m'.proxies = m.proxies := by rw [Manager.takeOrigin_frame h]
  rcases origin with ⟨displayName, config, systemConfig, payload⟩
  simp only [Manager.registerAddedProxy, h, Manager.addEntry, hproxies]
  cases config with
  | some config => rfl
  | none =>
      cases systemConfig with
      | some systemConfig => rfl
      | none => rfl

lemma createProxy_server {input : Option InputProxy} {proxy : Proxy}
    (h : Proxy.createProxy input = .ok proxy) : proxy.server ≠ "" := by
  rcases input with _ | ⟨server, port, _ | type⟩
  · cases h
  · cases h
  · simp only [Proxy.createProxy] at h
    split_ifs at h with hserver
    cases type with
    | socks5 user password =>
        cases h
        exact hserver
    | http user password httpOnly =>
        cases httpOnly <;> cases h <;> exact hserver
    | mtproto secret =>
        cases hsecret : ProxySecret.fromLink (utf8 secret) false with
        | error e => simp [hsecret] at h
        | ok secret =>
            simp only [hsecret] at h
            cases h
            exact hserver

/-- **An entry shows the address of the stored proxy** exactly if that is the address that the manager
holds for it: nothing is taken from TDLib's reply. -/
theorem registerAddedProxy_shows_iff {s : ConnectionCreator} {proxyId : ℤ}
    {input : Option InputProxy} {proxy : Proxy} {comment : String}
    (hcreated : Proxy.createProxy input = .ok proxy)
    (hstored : s.proxies[proxyId]? = some (proxy, comment))
    (lastUsedDate : ℤ) (m : Manager) (extra : Option Extra) :
    ∃ added, s.getAddedProxyObject proxyId = .ok added ∧
      (Shows m (addedProxyUpdate (added.toJson lastUsedDate) extra) proxy.getProxyObject ↔
        heldAddress m extra = some (proxy.server, (proxy.port : ℤ))) := by
  have hserver := createProxy_server hcreated
  refine ⟨⟨proxyId, proxyId = s.activeProxyId, comment, proxy⟩, ?_, ?_⟩
  · simp only [ConnectionCreator.getAddedProxyObject, hstored]
  rw [addedProxyUpdate_toJson, heldAddress_eq]
  cases horigin : m.takeOrigin extra with
  | none => simp [Shows, Manager.registerAddedProxy, horigin]
  | some result =>
      rcases result with ⟨origin, m'⟩
      have hentry := registerAddedProxy_proxies horigin proxyId
      simp only [Option.bind_some]
      constructor
      · rintro ⟨id, entry, -, hentries, -, hhost, hport, -⟩
        rw [hentry, List.append_cancel_left_eq, List.cons.injEq] at hentries
        rw [← hentries.1] at hhost hport
        cases haddress : origin.address with
        | none =>
            rw [haddress] at hhost
            exact absurd hhost.symm hserver
        | some address =>
            rw [haddress] at hhost hport
            exact congrArg some (Prod.ext hhost hport)
      · intro haddress
        rw [haddress] at hentry
        refine ⟨proxyId, _, rfl, hentry, rfl, rfl, rfl, ?_⟩
        intro origin' m'' horigin' hnone
        cases horigin.symm.trans horigin'
        exact absurd hnone (payload_of_address horigin (by simp [haddress]))

/-- TDLib with one proxy. -/
def storeOf (proxy : Proxy) (comment : String) : ConnectionCreator :=
  { proxies := (∅ : ProxyMap).insert 1 (proxy, comment), maxProxyId := 2 }

lemma storeOf_proxies (proxy : Proxy) (comment : String) :
    (storeOf proxy comment).proxies[(1 : ℤ)]? = some (proxy, comment) := by
  simp [storeOf]

def phantomConfig : ProxyConfig where
  name := "Phantom"
  host := "phantom.example"
  port := 443
  secret := "00112233445566778899aabbccddeeff"

def phantomProxy : Proxy where
  type := .mtproto
  server := "phantom.example"
  port := 443
  secret := ⟨[0, 17, 34, 51, 68, 85, 102, 119, 136, 153, 170, 187, 204, 221, 238, 255]⟩

/-- The entry of a configured proxy shows where it is. -/
theorem registerAddedProxy_shows_phantom :
    let m : Manager := { config := ⟨some phantomConfig, none⟩, pendingConfigs := [phantomConfig] }
    ∃ added, (storeOf phantomProxy "Phantom").getAddedProxyObject 1 = .ok added ∧
      Shows m (addedProxyUpdate (added.toJson 0) (some (.addProxy "Phantom")))
        phantomProxy.getProxyObject := by
  intro m
  have hcreated : Proxy.createProxy (some ⟨"phantom.example", 443,
      some (.mtproto "00112233445566778899aabbccddeeff")⟩) = .ok phantomProxy := by decide +kernel
  rcases registerAddedProxy_shows_iff hcreated (storeOf_proxies phantomProxy "Phantom") 0 m
    (some (.addProxy "Phantom")) with ⟨added, hadded, hshows⟩
  exact ⟨added, hadded, hshows.mpr rfl⟩

def homeProxy : Proxy where
  type := .socks5
  server := "home.example"
  port := 1080

def homeConfig : UserProxyConfig where
  id := "1"
  name := "Home"
  host := "home.example"
  port := 1080
  type := .socks5

/-- The entry of a proxy that the user has added shows neither host nor port. -/
theorem user_proxy_unshown :
    let m : Manager := { config := ⟨none, none⟩, pendingUserConfigs := [homeConfig] }
    ∃ added, (storeOf homeProxy "Home").getAddedProxyObject 1 = .ok added ∧
      (m.registerAddedProxy (addedProxyUpdate (added.toJson 0) (some (.addProxy "Home")))).proxies =
        [{ id := 1, name := "Home", host := "", port := 0 }] ∧
      ¬ Shows m (addedProxyUpdate (added.toJson 0) (some (.addProxy "Home")))
        homeProxy.getProxyObject := by
  refine ⟨⟨1, false, "Home", homeProxy⟩, ?_, rfl, ?_⟩
  · simp only [ConnectionCreator.getAddedProxyObject, storeOf_proxies]
    rfl
  rintro ⟨id, entry, -, hentries, -, hhost, -⟩
  have hentry : ({ id := 1, name := "Home", host := "", port := 0 } : ProxyEntry) = entry :=
    (List.cons.inj hentries).1
  rw [← hentry] at hhost
  exact absurd hhost (by decide)

end RioGram.Proxies
