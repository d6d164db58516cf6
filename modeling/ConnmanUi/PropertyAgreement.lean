import ConnmanUi.PropertyTypes

/-!
The two models of reading a property.

`Service.updateServiceProperty` and `Technology.storeProperty` work on values
that are taken out of the message beforehand; what a local held shows in their
result.  Those of `Reading` work on the message and stop where a local would be
used that nothing has written.  Where they do not stop the two agree, whatever
the locals held (`updateServiceProperty_agrees`, `updateTechnologyProperty_agrees`).
-/

namespace ConnmanUi.Reading

open DBus
open Service (Key Uninit ConnmanIpv4 ConnmanIpv6 ConnmanProxy ConnmanProvider ConnmanEthernet)

/-! ## Values as bodies -/

def variantBody : Variant → Body
  | .string s => .basic .string s .nil
  | .boolean b => .basic .boolean b .nil
  | .byte n => .basic .byte n .nil
  | .uint16 n => .basic .uint16 n .nil
  | .strings l => .array .string (.ofList .string l) .nil

/-- What the variant of a value holds. -/
def innerBody : Value → Body
  | .variant v => variantBody v
  | .dict entries => .dictionary (entries.map fun entry => (entry.1, variantBody entry.2))

def valueBody (value : Value) : Body := .variant (innerBody value) .nil

/-! ## Steps -/

variable {value : Value} {key : String} {uninit : Uninit}

theorem bind_ok {α β : Type} {x : Reads α} {f : α → Reads β} {b : β} (ok : (x >>= f) = .ok b) :
    ∃ a, x = .ok a ∧ f a = .ok b := by
  cases x with
  | error fault => cases ok
  | ok a => exact ⟨a, rfl, ok⟩

/-- What a local is known to hold is what the destination holds. -/
def Agrees {α : Type} (known : Option α) (held : α) : Prop := ∀ x, known = some x → held = x

theorem agrees_none {α : Type} (held : α) : Agrees none held := fun _ same => nomatch same

theorem agrees_unwritten {α β : Type} (f : α → β) (held : β) : Agrees ((none : Option α).map f) held :=
  fun _ same => nomatch same

/-- Both look a key up in the same way. -/
theorem getDictEntry_agrees (value : Value) (key : String) (entryType : EntryType) (type : Basic) :
    cuiDbusGetDictEntry (innerBody value) key entryType type =
      match getDictEntry value.entries key with
      | none => .ok (-22, none)
      | some v => (cuiDbusGet (variantBody v) entryType type).map fun got => (0, got.2) := by
  cases value with
  | variant v =>
    cases v with
    | strings l => cases l <;> rfl
    | _ => rfl
  | dict entries =>
    have found : entryFor (entries.map fun entry => (entry.1, variantBody entry.2)) key =
        (getDictEntry entries key).map variantBody := by
      simp only [entryFor, getDictEntry, List.find?_map, Option.map_map]
      rfl
    rw [innerBody, getDictEntry_dictionary, found]
    show _ = match getDictEntry entries key with | none => _ | some v => _
    cases getDictEntry entries key <;> rfl

/-- A member is not there, or is read, or gets what the local was known to hold. -/
theorem readMember_cases {type : Basic} {known member known' : Option type.Carrier}
    (ok : readMember type (innerBody value) key known = .ok (member, known')) :
    (getDictEntry value.entries key = none ∧ member = none ∧ known' = known) ∨
      ∃ v x, getDictEntry value.entries key = some v ∧ member = some x ∧ known' = some x ∧
        ((variantBody v).getBasic type = some x ∨ (variantBody v).getBasic type = none ∧ known = some x) := by
  unfold readMember at ok
  rw [getDictEntry_agrees] at ok
  cases found : getDictEntry value.entries key with
  | none =>
    rw [found] at ok
    cases ok
    exact .inl ⟨rfl, rfl, rfl⟩
  | some v =>
    rw [found] at ok
    simp only [cuiDbusGet, cuiDbusGetBasic] at ok
    cases read : (variantBody v).getBasic type with
    | some x =>
      simp only [read, Except.map, bind, Except.bind, gotBasic, if_true, dite_true, readLocal] at ok
      cases ok
      exact .inr ⟨v, x, rfl, rfl, rfl, .inl read⟩
    | none =>
      simp only [read, Except.map, bind, Except.bind, gotBasic, if_true] at ok
      cases known with
      | none => cases ok
      | some x =>
        cases ok
        exact .inr ⟨v, x, rfl, rfl, rfl, .inr ⟨read, rfl⟩⟩

theorem readString_agrees {known member known' : Option String} (held : Option String)
    (agrees : Agrees (known.map some) held)
    (ok : readMember .string (innerBody value) key known = .ok (member, known')) :
    (getDictString value.entries key held).1 = member.isSome ∧
      Agrees (member.map some) (getDictString value.entries key held).2 ∧
      Agrees (known'.map some) (getDictString value.entries key held).2 := by
  rcases readMember_cases ok with ⟨found, rfl, rfl⟩ | ⟨v, x, found, rfl, rfl, read⟩
  · rw [getDictString, found]
    exact ⟨rfl, nofun, agrees⟩
  · have same : getDictString value.entries key held = (true, some x) := by
      rw [getDictString, found]
      rcases read with read | ⟨unread, rfl⟩
      · cases v with
        | string s =>
          cases read
          rfl
        | _ => cases read
      · have kept : held = some x := agrees _ rfl
        cases v with
        | string s => cases unread
        | _ => rw [kept]
    rw [same]
    exact ⟨rfl, fun _ same => Option.some.inj same, fun _ same => Option.some.inj same⟩

theorem readUint16_agrees {known member known' : Option UInt16} (held : UInt16) (agrees : Agrees known held)
    (ok : readMember .uint16 (innerBody value) key known = .ok (member, known')) :
    (getDictUint16 value.entries key held).1 = member.isSome ∧
      Agrees member (getDictUint16 value.entries key held).2 ∧
      Agrees known' (getDictUint16 value.entries key held).2 := by
  rcases readMember_cases ok with ⟨found, rfl, rfl⟩ | ⟨v, x, found, rfl, rfl, read⟩
  · rw [getDictUint16, found]
    exact ⟨rfl, nofun, agrees⟩
  · have same : getDictUint16 value.entries key held = (true, x) := by
      rw [getDictUint16, found]
      rcases read with read | ⟨unread, rfl⟩
      · cases v with
        | uint16 n =>
          cases read
          rfl
        | _ => cases read
      · have kept : held = x := agrees _ rfl
        cases v with
        | uint16 n => cases unread
        | _ => rw [kept]
    rw [same]
    exact ⟨rfl, fun _ same => Option.some.inj same, fun _ same => Option.some.inj same⟩

/-- An array is read as it is, or not at all. -/
theorem getStrings_agrees {strings : Option String} (ok : getStrings (valueBody value) = .ok strings) :
    joinv value.getArray = strings := by
  cases value with
  | variant v =>
    cases v with
    | strings l =>
      simp only [getStrings, valueBody, innerBody, variantBody,
        cuiDbusGetArray_variant (show elementSize .string = some 8 from rfl), readLocal, bind, Except.bind] at ok
      rw [joinCells_strings l] at ok
      cases ok
      rfl
    | _ => cases ok
  | dict entries =>
    cases entries with
    | nil =>
      cases ok
      rfl
    | cons entry entries =>
      -- the first element is no string, and is used as one
      let rest := (Body.ofEntries (entries.map fun entry => (entry.1, variantBody entry.2))).positions
      obtain ⟨answer, read, unread, cells⟩ : ∃ answer : Option (List Cell) → Reads (Int × Option (Nat × List Cell)),
          cuiDbusGetArray (valueBody (.dict (entry :: entries))) .string =
            ((readCells .string 8 rest 1).map fun cells => cells.map (none :: ·)).bind answer ∧
          answer none = .ok (-12, some (0, [])) ∧
          ∀ cells, answer (some cells) = .ok (0, some (cells.length - 1, cells)) := ⟨_, rfl, rfl, fun _ => rfl⟩
      rw [getStrings, read] at ok
      cases later : readCells .string 8 rest 1 with
      | error fault =>
        rw [later] at ok
        cases ok
      | ok known =>
        rw [later] at ok
        cases known with
        | none =>
          simp only [Except.map, Option.map_none, Except.bind, unread] at ok
          cases ok
          rfl
        | some known =>
          simp only [Except.map, Option.map_some, Except.bind, cells] at ok
          cases ok

theorem readArray_agrees {member : Option (Option String)}
    (ok : readArrayMember (innerBody value) key = .ok member) :
    (getDictArray value.entries key).map joinv = member := by
  unfold readArrayMember at ok
  rw [getDictEntry_agrees] at ok
  unfold getDictArray
  cases found : getDictEntry value.entries key with
  | none =>
    rw [found] at ok
    cases ok
    rfl
  | some v =>
    rw [found] at ok
    cases v with
    | strings l =>
      simp only [cuiDbusGet, variantBody, cuiDbusGetArray_ofList (show elementSize .string = some 8 from rfl),
        Except.map, bind, Except.bind, if_true, Option.map_some] at ok
      rw [joinCells_strings l] at ok
      cases ok
      rfl
    | _ => cases ok

/-! ## Fields -/

theorem stringField_agrees {member held : Option String} {found : Bool} (old : Option String)
    (same : found = member.isSome) (agrees : Agrees (member.map some) held) :
    (if found then held else old) = member.or old := by
  cases member with
  | none => simp [same]
  | some s => simp [same, agrees _ rfl]

theorem uint16Field_agrees {member : Option UInt16} {held : UInt16} {found : Bool} (old : UInt16)
    (same : found = member.isSome) (agrees : Agrees member held) :
    (if found then held else old) = member.getD old := by
  cases member with
  | none => simp [same]
  | some n => simp [same, agrees _ rfl]

theorem prefixField_agrees {member : Option UInt16} {held : UInt16} {found : Bool} (old : UInt8)
    (same : found = member.isSome) (agrees : Agrees member held) :
    (if found then held.toUInt8 else old) = (member.map UInt16.toUInt8).getD old := by
  cases member with
  | none => simp [same]
  | some n => simp [same, agrees _ rfl]

/-! ## Structures -/

section Structures

theorem parseIpv4_agrees {old result : Option ConnmanIpv4} (ok : parseIpv4 (valueBody value) old = .ok result) :
    Service.parseIpv4 uninit value old = result := by
  obtain ⟨dict, entered, ok⟩ := bind_ok ok
  cases entered
  obtain ⟨⟨method, known⟩, readMethod, ok⟩ := bind_ok ok
  obtain ⟨⟨address, known'⟩, readAddress, ok⟩ := bind_ok ok
  obtain ⟨⟨netmask, known''⟩, readNetmask, ok⟩ := bind_ok ok
  obtain ⟨⟨gateway, _⟩, readGateway, ok⟩ := bind_ok ok
  obtain ⟨hasMethod, isMethod, held⟩ := readString_agrees uninit.string (agrees_unwritten _ _) readMethod
  obtain ⟨hasAddress, isAddress, held⟩ := readString_agrees _ held readAddress
  obtain ⟨hasNetmask, isNetmask, held⟩ := readString_agrees _ held readNetmask
  obtain ⟨hasGateway, isGateway, -⟩ := readString_agrees _ held readGateway
  simp only [Service.parseIpv4]
  rw [stringField_agrees _ hasMethod isMethod, stringField_agrees _ hasAddress isAddress,
    stringField_agrees _ hasNetmask isNetmask, stringField_agrees _ hasGateway isGateway,
    hasMethod, hasAddress, hasNetmask, hasGateway]
  exact Except.ok.inj ((apply_ite Except.ok _ _ _).trans ok)

theorem parseIpv6_agrees {old result : Option ConnmanIpv6} (ok : parseIpv6 (valueBody value) old = .ok result) :
    Service.parseIpv6 uninit value old = result := by
  obtain ⟨dict, entered, ok⟩ := bind_ok ok
  cases entered
  obtain ⟨⟨method, known⟩, readMethod, ok⟩ := bind_ok ok
  obtain ⟨⟨address, known'⟩, readAddress, ok⟩ := bind_ok ok
  obtain ⟨⟨prefixLength, _⟩, readPrefix, ok⟩ := bind_ok ok
  obtain ⟨⟨gateway, known''⟩, readGateway, ok⟩ := bind_ok ok
  obtain ⟨⟨privacy, _⟩, readPrivacy, ok⟩ := bind_ok ok
  obtain ⟨hasMethod, isMethod, held⟩ := readString_agrees uninit.string (agrees_unwritten _ _) readMethod
  obtain ⟨hasAddress, isAddress, held⟩ := readString_agrees _ held readAddress
  obtain ⟨hasPrefix, isPrefix, -⟩ := readUint16_agrees uninit.uint16 (agrees_none _) readPrefix
  obtain ⟨hasGateway, isGateway, held⟩ := readString_agrees _ held readGateway
  obtain ⟨hasPrivacy, isPrivacy, -⟩ := readString_agrees _ held readPrivacy
  simp only [Service.parseIpv6]
  rw [stringField_agrees _ hasMethod isMethod, stringField_agrees _ hasAddress isAddress,
    prefixField_agrees _ hasPrefix isPrefix, stringField_agrees _ hasGateway isGateway,
    stringField_agrees _ hasPrivacy isPrivacy, hasMethod, hasAddress, hasPrefix, hasGateway, hasPrivacy]
  exact Except.ok.inj ((apply_ite Except.ok _ _ _).trans ok)

theorem parseProxy_agrees {old result : Option ConnmanProxy} (ok : parseProxy (valueBody value) old = .ok result) :
    Service.parseProxy uninit value old = result := by
  obtain ⟨dict, entered, ok⟩ := bind_ok ok
  cases entered
  obtain ⟨⟨method, known⟩, readMethod, ok⟩ := bind_ok ok
  obtain ⟨⟨url, _⟩, readUrl, ok⟩ := bind_ok ok
  obtain ⟨servers, readServers, ok⟩ := bind_ok ok
  obtain ⟨excludes, readExcludes, ok⟩ := bind_ok ok
  obtain ⟨hasMethod, isMethod, held⟩ := readString_agrees uninit.string (agrees_unwritten _ _) readMethod
  obtain ⟨hasUrl, isUrl, -⟩ := readString_agrees _ held readUrl
  cases readArray_agrees readServers
  cases readArray_agrees readExcludes
  rw [Option.isSome_map, Option.isSome_map] at ok
  simp only [Service.parseProxy]
  rw [stringField_agrees _ hasMethod isMethod, stringField_agrees _ hasUrl isUrl, hasMethod, hasUrl]
  generalize getDictArray value.entries "Servers" = servers at ok ⊢
  generalize getDictArray value.entries "Excludes" = excludes at ok ⊢
  cases servers <;> cases excludes <;> exact Except.ok.inj ((apply_ite Except.ok _ _ _).trans ok)

theorem parseProvider_agrees {old result : Option ConnmanProvider}
    (ok : parseProvider (valueBody value) old = .ok result) : Service.parseProvider uninit value old = result := by
  obtain ⟨dict, entered, ok⟩ := bind_ok ok
  cases entered
  obtain ⟨⟨host, known⟩, readHost, ok⟩ := bind_ok ok
  obtain ⟨⟨domain, known'⟩, readDomain, ok⟩ := bind_ok ok
  obtain ⟨⟨name, known''⟩, readName, ok⟩ := bind_ok ok
  obtain ⟨⟨type, _⟩, readType, ok⟩ := bind_ok ok
  obtain ⟨hasHost, isHost, held⟩ := readString_agrees uninit.string (agrees_unwritten _ _) readHost
  obtain ⟨hasDomain, isDomain, held⟩ := readString_agrees _ held readDomain
  obtain ⟨hasName, isName, held⟩ := readString_agrees _ held readName
  obtain ⟨hasType, isType, -⟩ := readString_agrees _ held readType
  simp only [Service.parseProvider]
  rw [stringField_agrees _ hasHost isHost, stringField_agrees _ hasDomain isDomain,
    stringField_agrees _ hasName isName, stringField_agrees _ hasType isType, hasHost, hasDomain, hasName, hasType]
  exact Except.ok.inj ((apply_ite Except.ok _ _ _).trans ok)

theorem parseEthernet_agrees {old result : Option ConnmanEthernet}
    (ok : parseEthernet (valueBody value) old = .ok result) : Service.parseEthernet uninit value old = result := by
  obtain ⟨dict, entered, ok⟩ := bind_ok ok
  cases entered
  obtain ⟨⟨method, known⟩, readMethod, ok⟩ := bind_ok ok
  obtain ⟨⟨interface, known'⟩, readInterface, ok⟩ := bind_ok ok
  obtain ⟨⟨address, known''⟩, readAddress, ok⟩ := bind_ok ok
  obtain ⟨⟨mtu, number⟩, readMtu, ok⟩ := bind_ok ok
  obtain ⟨⟨speed, _⟩, readSpeed, ok⟩ := bind_ok ok
  obtain ⟨⟨duplex, _⟩, readDuplex, ok⟩ := bind_ok ok
  obtain ⟨hasMethod, isMethod, held⟩ := readString_agrees uninit.string (agrees_unwritten _ _) readMethod
  obtain ⟨hasInterface, isInterface, held⟩ := readString_agrees _ held readInterface
  obtain ⟨hasAddress, isAddress, held⟩ := readString_agrees _ held readAddress
  obtain ⟨hasMtu, isMtu, number⟩ := readUint16_agrees uninit.uint16 (agrees_none _) readMtu
  obtain ⟨hasSpeed, isSpeed, -⟩ := readUint16_agrees _ number readSpeed
  obtain ⟨hasDuplex, isDuplex, -⟩ := readString_agrees _ held readDuplex
  simp only [Service.parseEthernet]
  rw [stringField_agrees _ hasMethod isMethod, stringField_agrees _ hasInterface isInterface,
    stringField_agrees _ hasAddress isAddress, uint16Field_agrees _ hasMtu isMtu, uint16Field_agrees _ hasSpeed isSpeed,
    stringField_agrees _ hasDuplex isDuplex]
  exact Except.ok.inj ok

end Structures

/-! ## Properties -/

theorem getString_agrees {s : String} (ok : getVariant .string (valueBody value) = .ok s) (held : Option String) :
    value.getString held = some s := by
  cases value with
  | variant v => cases v <;> cases ok; rfl
  | dict => cases ok

theorem getBoolean_agrees {b : Bool} (ok : getVariant .boolean (valueBody value) = .ok b) (held : Bool) :
    value.getBoolean held = b := by
  cases value with
  | variant v => cases v <;> cases ok; rfl
  | dict => cases ok

theorem getByte_agrees {n : UInt8} (ok : getVariant .byte (valueBody value) = .ok n) (held : UInt8) :
    value.getByte held = n := by
  cases value with
  | variant v => cases v <;> cases ok; rfl
  | dict => cases ok

theorem map_ok {α β : Type} {x : Reads α} {f : α → β} {b : β} (ok : x.map f = .ok b) : ∃ a, x = .ok a ∧ f a = b := by
  cases x with
  | error fault => cases ok
  | ok a => exact ⟨a, rfl, Except.ok.inj ok⟩

/-- Where nothing goes wrong the two models store the same, whatever the locals
held. -/
theorem decode_agrees {k : Key} {old result : k.Field} (ok : decode (valueBody value) k old = .ok result) :
    Service.decode uninit value k old = result := by
  cases k with
  | name | type =>
    obtain ⟨s, read, rfl⟩ := map_ok ok
    exact getString_agrees read _
  | security => exact getStrings_agrees ok
  | immutable => exact getBoolean_agrees ok _
  | updatable p =>
    cases p with
    | state =>
      obtain ⟨s, read, rfl⟩ := map_ok ok
      exact congrArg string2enumState (getString_agrees read _)
    | error =>
      obtain ⟨s, read, rfl⟩ := map_ok ok
      exact getString_agrees read _
    | strength => exact getByte_agrees ok _
    | favorite | autoconnect | roaming => exact getBoolean_agrees ok _
    | ipv4 | ipv4Configuration => exact parseIpv4_agrees ok
    | ipv6 | ipv6Configuration => exact parseIpv6_agrees ok
    | proxy | proxyConfiguration => exact parseProxy_agrees ok
    | provider => exact parseProvider_agrees ok
    | ethernet => exact parseEthernet_agrees ok
    | _ => exact getStrings_agrees ok


theorem updateServiceProperty_agrees {name : String} {obj obj' : Object Service.Property Service.Record}
    (ok : updateServiceProperty (.basic .string name (valueBody value)) obj = .ok obj') :
    Service.updateServiceProperty uninit obj name value = obj' := by
  have named : serviceProperty (.basic .string name (valueBody value)) = Key.ofName name := by
    simp [serviceProperty, cuiDbusGetBasic]
  rw [updateServiceProperty, named] at ok
  rw [Service.updateServiceProperty]
  cases stored : Key.ofName name with
  | none =>
    rw [stored] at ok
    exact Except.ok.inj ok
  | some k =>
    rw [stored] at ok
    obtain ⟨result, read, rfl⟩ := map_ok ok
    have agrees : Service.decode uninit value k (obj.rest k) = result := decode_agrees read
    rw [← agrees]
    cases k <;> rfl

theorem getBasicVariant_agrees (value : Value) (held : Bool) :
    (cuiDbusGetBasicVariant (valueBody value) .boolean).getD held = value.getBoolean held := by
  cases value with
  | variant v => cases v <;> rfl
  | dict => rfl

theorem updateTechnologyProperty_agrees {name : String} {held : Option String}
    {obj obj' : Object Technology.Property Technology.Record}
    (ok : updateTechnologyProperty (.basic .string name (valueBody value)) obj = .ok obj') :
    Technology.storeProperty held obj name value = obj' := by
  have named : technologyProperty (.basic .string name (valueBody value)) = TechnologyKey.ofName name := by
    simp [technologyProperty, cuiDbusGetBasic]
  rw [updateTechnologyProperty, named] at ok
  unfold Technology.storeProperty
  split
  case h_1 | h_2 | h_6 | h_7 =>
    obtain ⟨record, decoded, rfl⟩ := map_ok ok
    obtain ⟨s, read, rfl⟩ := map_ok decoded
    rw [getString_agrees read]
    rfl
  case h_3 | h_4 | h_5 =>
    obtain ⟨record, decoded, rfl⟩ := map_ok ok
    cases decoded
    rw [← getBasicVariant_agrees]
    rfl
  case h_8 =>
    have other : TechnologyKey.ofName name = none := by
      unfold TechnologyKey.ofName Technology.Property.ofName
      split <;> first | contradiction | (split <;> first | contradiction | rfl)
    rw [other] at ok
    exact Except.ok.inj ok

end ConnmanUi.Reading
