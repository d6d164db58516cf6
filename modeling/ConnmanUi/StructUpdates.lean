import ConnmanUi.PropertyTypes
import ConnmanUi.ServiceDecoding

/-!
Structures and the dictionaries they come from (`lib/service.c`).

ConnMan sends the whole of a structured property each time it changes, so what
is stored should be what the last dictionary says.  The parsers write over the
structure that is there, member by member: what the new dictionary has no entry
for stays.  `only_last_iff` says when that does not matter.
-/

namespace ConnmanUi.Reading

open DBus
open Service (Key Record ConnmanIpv4 ConnmanIpv6 ConnmanProxy ConnmanProvider ConnmanEthernet)

/-! ## Dictionaries as ConnMan sends them -/

def connmanIpv6Members : List (String × Sig) :=
  [("Method", .string), ("Address", .string), ("PrefixLength", .byte), ("Gateway", .string), ("Privacy", .string)]

/-- The keys of a structured property, with their types.  The length of a prefix
is a byte, and its key is not the one `parse_ipv6` looks for. -/
def connmanMembersOf : Key → List (String × Sig)
  | .updatable .ipv6 => connmanIpv6Members
  | .updatable .ipv6Configuration => connmanIpv6Members
  | k => membersOf k

/-- Some of the keys, in any order, each with a value of its type. -/
structure TypedDictionary (k : Key) (d : List (String × Body)) : Prop where
  wellFormed : (Body.dictionary d).WellFormed
  distinct : (d.map Prod.fst).Nodup
  known : ∀ entry ∈ d, (entry.1, entry.2.sig) ∈ connmanMembersOf k

instance (k : Key) (d : List (String × Body)) : Decidable (TypedDictionary k d) :=
  decidable_of_iff ((Body.dictionary d).WellFormed ∧ (d.map Prod.fst).Nodup ∧
    ∀ entry ∈ d, (entry.1, entry.2.sig) ∈ connmanMembersOf k)
    ⟨fun ⟨wellFormed, distinct, known⟩ => ⟨wellFormed, distinct, known⟩,
      fun ⟨wellFormed, distinct, known⟩ => ⟨wellFormed, distinct, known⟩⟩

/-- An update of a property that is stored brings a value of its type. -/
def TypedUpdate (arg : Body) : Prop :=
  arg.WellFormed ∧ ∀ k, serviceProperty arg = some k →
    ∃ inner rest, arg.next = .variant inner rest ∧ inner.sig = typeOf k ∧
      (typeOf k = .dictionary → TypedDictionary k (entriesOf inner))

/-- A service that is new takes in one update after another. -/
def updates (history : List Body) : Reads (Object Service.Property Record) :=
  history.foldlM (fun obj arg => updateServiceProperty arg obj) .blank

/-- What `update_service_property` is given when a structured property changes. -/
def changed (k : Key) (d : List (String × Body)) : Body :=
  .basic .string k.busName (.variant (.dictionary d) .nil)

section Lookup
variable {k : Key} {d : List (String × Body)} {key : String}

/-- The length of a prefix is where `parse_ipv6` trips. -/
def HasPrefixLength (d : List (String × Body)) : Prop := ∃ entry ∈ d, entry.1 = "PrefixLength"

instance (d : List (String × Body)) : Decidable (HasPrefixLength d) :=
  inferInstanceAs (Decidable (∃ _ ∈ d, _))

/-- No key of a structure begins with another, `Prefix` apart. -/
theorem connmanMembers_distinct (k : Key) :
    ∀ member ∈ membersOf k, ∀ sent ∈ connmanMembersOf k, sent.1 ≠ "PrefixLength" →
      member.1.toList.isPrefixOf sent.1.toList = true → member = sent := by
  cases k with
  | updatable p => cases p <;> decide
  | _ => decide

theorem connmanMembers_apart (k : Key) :
    ∀ member ∈ membersOf k, member.1 ≠ "Prefix" → ∀ sent ∈ connmanMembersOf k,
      member.1.toList.isPrefixOf sent.1.toList = true → member = sent := by
  cases k with
  | updatable p => cases p <;> decide
  | _ => decide

theorem entryFor_mem {inner : Body} (found : entryFor d key = some inner) :
    ∃ name, (name, inner) ∈ d ∧ key.toList.isPrefixOf name.toList = true := by
  obtain ⟨entry, there, rfl⟩ := Option.map_eq_some_iff.mp found
  exact ⟨entry.1, List.mem_of_find?_eq_some there, by simpa using List.find?_some there⟩

/-- Without the length of a prefix the parsers find what they expect. -/
theorem TypedDictionary.expected (typed : TypedDictionary k d) (without : ¬HasPrefixLength d) :
    ∀ member ∈ membersOf k, EntryHasType d member := by
  intro member looked inner found
  obtain ⟨name, there, begins⟩ := entryFor_mem found
  have named : name ≠ "PrefixLength" := fun same => without ⟨_, there, same⟩
  exact congrArg Prod.snd
    (connmanMembers_distinct k member looked _ (typed.known _ there) named begins).symm

/-- Every other member they find anyway. -/
theorem TypedDictionary.expected_other (typed : TypedDictionary k d) (member : String × Sig)
    (looked : member ∈ membersOf k) (other : member.1 ≠ "Prefix") : EntryHasType d member := by
  intro inner found
  obtain ⟨name, there, begins⟩ := entryFor_mem found
  exact congrArg Prod.snd (connmanMembers_apart k member looked other _ (typed.known _ there) begins).symm

/-- The first entry that begins with a key is the one of that name. -/
theorem entryFor_eq_lookup (alone : ∀ entry ∈ d, key.toList.isPrefixOf entry.1.toList = true → key = entry.1) :
    entryFor d key = d.lookup key := by
  induction d with
  | nil => rfl
  | cons entry d ih =>
    obtain ⟨name, inner⟩ := entry
    by_cases same : key = name
    · subst same
      simp [entryFor]
    · have later : ¬key.toList.isPrefixOf name.toList = true := fun begins =>
        same (alone (name, inner) List.mem_cons_self begins)
      rw [List.lookup_cons, beq_false_of_ne same, ← ih fun entry there => alone entry (List.mem_cons_of_mem _ there)]
      simp [entryFor, later]

theorem TypedDictionary.found (typed : TypedDictionary k d) (member : String × Sig) (looked : member ∈ membersOf k)
    (other : member.1 ≠ "Prefix") : entryFor d member.1 = d.lookup member.1 :=
  entryFor_eq_lookup fun _ there begins =>
    congrArg Prod.fst (connmanMembers_apart k member looked other _ (typed.known _ there) begins)

/-! ## The length of a prefix -/

/-- `parse_ipv6` finds the byte, reads nothing and goes on. -/
theorem parseIpv6_prefixLength (typed : TypedDictionary (.updatable .ipv6) d) (sent : HasPrefixLength d)
    (rest : Body) (old : Option ConnmanIpv6) :
    parseIpv6 (.variant (.dictionary d) rest) old = .error .unwritten := by
  have method := readMember_typed (typed.expected_other ("Method", .string) (by decide) (by decide))
  have address := readMember_typed (typed.expected_other ("Address", .string) (by decide) (by decide))
  obtain ⟨inner, found⟩ : ∃ inner, entryFor d "Prefix" = some inner := by
    obtain ⟨entry, there, name⟩ := sent
    refine Option.isSome_iff_exists.mp ?_
    rw [entryFor, Option.isSome_map, List.find?_isSome]
    exact ⟨entry, there, by rw [name]; decide⟩
  have byte : inner.sig = .byte := by
    obtain ⟨name, there, begins⟩ := entryFor_mem found
    have known := typed.known _ there
    simp only [connmanMembersOf, connmanIpv6Members, List.mem_cons, Prod.mk.injEq, List.not_mem_nil, or_false] at known
    rcases known with ⟨rfl, -⟩ | ⟨rfl, -⟩ | ⟨rfl, type⟩ | ⟨rfl, -⟩ | ⟨rfl, -⟩
    · exact absurd begins (by decide)
    · exact absurd begins (by decide)
    · exact type
    · exact absurd begins (by decide)
    · exact absurd begins (by decide)
  obtain ⟨n, rfl⟩ := Body.sig_eq_basic.mp byte
  have unread : readMember .uint16 (.dictionary d) "Prefix" none = .error .unwritten := by
    unfold readMember
    rw [getDictEntry_dictionary, found]
    rfl
  simp only [parseIpv6, recurse, readLocal, Body.inside, bind, Except.bind, method, address, unread]

end Lookup

/-! ## What a dictionary says -/

section Says
variable (d : List (String × Body))

def stringAt (key : String) : Option String := (d.lookup key).bind (Body.getBasic .string)

def uint16At (key : String) : Option UInt16 := (d.lookup key).bind (Body.getBasic .uint16)

def byteAt (key : String) : Option UInt8 := (d.lookup key).bind (Body.getBasic .byte)

/-- A list is kept in one string, NULL if it is empty. -/
def stringsAt (key : String) : Option String :=
  ((d.lookup key).map fun inner => joinv (stringsOf (inner.inside.getD .nil))).getD none

/-- The structure a dictionary describes: a field for each entry, and nothing
else set. -/
def described : (k : Key) → k.Field
  | .updatable .ipv4 => ipv4
  | .updatable .ipv4Configuration => ipv4
  | .updatable .ipv6 => ipv6
  | .updatable .ipv6Configuration => ipv6
  | .updatable .proxy => proxy
  | .updatable .proxyConfiguration => proxy
  | .updatable .provider =>
    if d = [] then none
    else some { host := stringAt d "Host"
                domain := stringAt d "Domain"
                name := stringAt d "Name"
                type := stringAt d "Type" }
  | .updatable .ethernet =>
    if d = [] then none
    else some { method := stringAt d "Method"
                interface := stringAt d "Interface"
                address := stringAt d "Address"
                mtu := (uint16At d "MTU").getD 0
                speed := (uint16At d "Speed").getD 0
                duplex := stringAt d "Duplex" }
  | k => k.zero
where
  ipv4 : Option ConnmanIpv4 :=
    if d = [] then none
    else some { method := stringAt d "Method"
                address := stringAt d "Address"
                netmask := stringAt d "Netmask"
                gateway := stringAt d "Gateway" }
  ipv6 : Option ConnmanIpv6 :=
    if d = [] then none
    else some { method := stringAt d "Method"
                address := stringAt d "Address"
                prefixLength := (byteAt d "PrefixLength").getD 0
                gateway := stringAt d "Gateway"
                privacy := stringAt d "Privacy" }
  proxy : Option ConnmanProxy :=
    if d = [] then none
    else some { method := stringAt d "Method"
                url := stringAt d "URL"
                servers := stringsAt d "Servers"
                excludes := stringsAt d "Excludes" }

/-- A member the dictionary has no entry for is not set. -/
def Unset {α : Type} (key : String) (unset old : α) : Prop := d.lookup key = none → old = unset

/-- A member the dictionary has is not left out. -/
theorem Unset.of_lookup {α : Type} {key : String} {unset old : α} {inner : Body} (found : d.lookup key = some inner) :
    Unset d key unset old := fun none => absurd (found.symm.trans none) (Option.some_ne_none _)

/-- Nothing the dictionary leaves out is set in the structure it is stored over.
An empty one gives the structure up, but not that of `parse_ethernet`; and the
length of a prefix is never read. -/
def Fits : (k : Key) → k.Field → Prop
  | .updatable .ipv4, old => ipv4 (old.getD {})
  | .updatable .ipv4Configuration, old => ipv4 (old.getD {})
  | .updatable .ipv6, old => ipv6 (old.getD {})
  | .updatable .ipv6Configuration, old => ipv6 (old.getD {})
  | .updatable .proxy, old => proxy (old.getD {})
  | .updatable .proxyConfiguration, old => proxy (old.getD {})
  | .updatable .provider, old => d ≠ [] →
    Unset d "Host" none (old.getD {}).host ∧ Unset d "Domain" none (old.getD {}).domain ∧
      Unset d "Name" none (old.getD {}).name ∧ Unset d "Type" none (old.getD {}).type
  | .updatable .ethernet, old => d ≠ [] ∧
    Unset d "Method" none (old.getD {}).method ∧ Unset d "Interface" none (old.getD {}).interface ∧
      Unset d "Address" none (old.getD {}).address ∧ Unset d "MTU" 0 (old.getD {}).mtu ∧
      Unset d "Speed" 0 (old.getD {}).speed ∧ Unset d "Duplex" none (old.getD {}).duplex
  | _, _ => True
where
  ipv4 (old : ConnmanIpv4) : Prop := d ≠ [] →
    Unset d "Method" none old.method ∧ Unset d "Address" none old.address ∧
      Unset d "Netmask" none old.netmask ∧ Unset d "Gateway" none old.gateway
  ipv6 (old : ConnmanIpv6) : Prop := ¬HasPrefixLength d ∧ (d ≠ [] →
    Unset d "Method" none old.method ∧ Unset d "Address" none old.address ∧
      Unset d "PrefixLength" 0 old.prefixLength ∧ Unset d "Gateway" none old.gateway ∧
      Unset d "Privacy" none old.privacy)
  proxy (old : ConnmanProxy) : Prop := d ≠ [] →
    Unset d "Method" none old.method ∧ Unset d "URL" none old.url ∧
      Unset d "Servers" none old.servers ∧ Unset d "Excludes" none old.excludes

end Says

section Struct
variable {k : Key} {d : List (String × Body)}

@[simp] theorem entriesOf_dictionary (d : List (String × Body)) : entriesOf (.dictionary d) = d :=
  Body.entries_ofEntries d

theorem prefixLength_ipv6 (k : Key) : ∀ sent ∈ connmanMembersOf k, sent.1 = "PrefixLength" →
    k = .updatable .ipv6 ∨ k = .updatable .ipv6Configuration := by
  cases k with
  | updatable p => cases p <;> decide
  | _ => decide

theorem TypedDictionary.ipv6 (typed : TypedDictionary k d) (sent : HasPrefixLength d) :
    k = .updatable .ipv6 ∨ k = .updatable .ipv6Configuration := by
  obtain ⟨entry, there, name⟩ := sent
  exact prefixLength_ipv6 k _ (typed.known entry there) name

/-- A dictionary of the right types is read, unless it has the length of a
prefix. -/
theorem decode_dictionary (typed : TypedDictionary k d) (struct : typeOf k = .dictionary) (rest : Body)
    (old : k.Field) :
    decode (.variant (.dictionary d) rest) k old =
      if HasPrefixLength d then .error .unwritten else .ok (taken (.dictionary d) k old) := by
  by_cases sent : HasPrefixLength d
  · rw [if_pos sent]
    rcases typed.ipv6 sent with rfl | rfl
    · exact parseIpv6_prefixLength typed sent rest old
    · exact parseIpv6_prefixLength ⟨typed.wellFormed, typed.distinct, typed.known⟩ sent rest old
  · rw [if_neg sent]
    refine decode_expected ((Body.sig_dictionary d).trans struct.symm) ?_ typed.wellFormed rest old
    rw [entriesOf_dictionary]
    exact typed.expected sent

/-! ## Fields -/

theorem or_eq_left {α : Type} {value old : Option α} : value.or old = value ↔ (value = none → old = none) := by
  cases value <;> simp

theorem getD_eq_zero {α : Type} {value : Option α} {old zero : α} :
    value.getD old = value.getD zero ↔ (value = none → old = zero) := by
  cases value <;> simp

/-- A member's value is there when its entry is. -/
theorem TypedDictionary.bind_eq_none (typed : TypedDictionary k d) (key : String) {type : Basic}
    (looked : (key, .basic type .nil) ∈ membersOf k) (other : key ≠ "Prefix") :
    (d.lookup key).bind (Body.getBasic type) = none ↔ d.lookup key = none := by
  constructor
  · intro nothing
    cases there : d.lookup key with
    | none => rfl
    | some inner =>
      have found := (typed.found (key, .basic type .nil) looked other).trans there
      obtain ⟨x, rfl⟩ := Body.sig_eq_basic.mp (typed.expected_other _ looked other inner found)
      simp [there] at nothing
  · intro nothing
    rw [nothing]
    rfl

/-- What is read for a member is what the dictionary says. -/
theorem TypedDictionary.basicFor (typed : TypedDictionary k d) (key : String) {type : Basic}
    (looked : (key, .basic type .nil) ∈ membersOf k) (other : key ≠ "Prefix") :
    basicFor d key type = (d.lookup key).bind (Body.getBasic type) := by
  rw [Reading.basicFor, typed.found (key, .basic type .nil) looked other]

/-- A string is what the dictionary says, if it says anything or nothing was
there. -/
theorem TypedDictionary.string (typed : TypedDictionary k d) (key : String)
    (looked : (key, .string) ∈ membersOf k := by decide) (other : key ≠ "Prefix" := by decide) (old : Option String) :
    (Reading.basicFor d key .string).or old = stringAt d key ↔ Unset d key none old := by
  rw [typed.basicFor key looked other, Unset, ← typed.bind_eq_none key looked other]
  exact or_eq_left

theorem TypedDictionary.uint16 (typed : TypedDictionary k d) (key : String)
    (looked : (key, .uint16) ∈ membersOf k := by decide) (other : key ≠ "Prefix" := by decide) (old : UInt16) :
    (Reading.basicFor d key .uint16).getD old = (uint16At d key).getD 0 ↔ Unset d key 0 old := by
  rw [typed.basicFor key looked other, Unset, ← typed.bind_eq_none key looked other]
  exact getD_eq_zero

theorem TypedDictionary.strings (typed : TypedDictionary k d) (key : String)
    (looked : (key, .strings) ∈ membersOf k := by decide) (other : key ≠ "Prefix" := by decide) (old : Option String) :
    ((stringsFor d key).map joinv).getD old = stringsAt d key ↔ Unset d key none old := by
  rw [stringsFor, typed.found (key, .strings) looked other, Unset, stringsAt, Option.map_map]
  cases d.lookup key <;> simp

theorem TypedDictionary.isSome (typed : TypedDictionary k d) (key : String) {type : Basic}
    (looked : (key, .basic type .nil) ∈ membersOf k := by decide) (other : key ≠ "Prefix" := by decide) :
    (Reading.basicFor d key type).isSome = (d.lookup key).isSome := by
  have same := typed.bind_eq_none key looked other
  rw [typed.basicFor key looked other]
  cases there : d.lookup key with
  | none => rfl
  | some inner =>
    rw [there] at same
    exact Option.isSome_iff_ne_none.mpr fun nothing => nomatch same.mp nothing

theorem TypedDictionary.strings_isSome (typed : TypedDictionary k d) (key : String)
    (looked : (key, .strings) ∈ membersOf k := by decide) (other : key ≠ "Prefix" := by decide) :
    (stringsFor d key).isSome = (d.lookup key).isSome := by
  rw [stringsFor, typed.found (key, .strings) looked other, Option.isSome_map]

theorem connmanMembers_sub (k : Key) : ∀ sent ∈ connmanMembersOf k, sent.1 ≠ "PrefixLength" → sent ∈ membersOf k := by
  cases k with
  | updatable p => cases p <;> decide
  | _ => decide

/-- A dictionary that is not empty has a member. -/
theorem TypedDictionary.somewhere (typed : TypedDictionary k d) (without : ¬HasPrefixLength d) (any : d ≠ []) :
    ∃ member ∈ membersOf k, (d.lookup member.1).isSome = true := by
  cases d with
  | nil => exact absurd rfl any
  | cons entry d =>
    have named : entry.1 ≠ "PrefixLength" := fun same => without ⟨entry, List.mem_cons_self, same⟩
    refine ⟨_, connmanMembers_sub k _ (typed.known entry List.mem_cons_self) named, ?_⟩
    simp

/-! ## Structures -/

theorem ipv4_iff (typed : TypedDictionary (.updatable .ipv4) d) (old : Option ConnmanIpv4) :
    ipv4Of d old = described.ipv4 d ↔ Fits.ipv4 d (old.getD {}) := by
  by_cases any : d = []
  · subst any
    exact ⟨fun _ any => absurd rfl any, fun _ => rfl⟩
  · obtain ⟨member, looked, there⟩ := typed.somewhere (fun sent => by simpa using typed.ipv6 sent) any
    have set : ((Reading.basicFor d "Method" .string).isSome || (Reading.basicFor d "Address" .string).isSome ||
        (Reading.basicFor d "Netmask" .string).isSome || (Reading.basicFor d "Gateway" .string).isSome) = true := by
      rw [typed.isSome "Method", typed.isSome "Address", typed.isSome "Netmask", typed.isSome "Gateway"]
      simp only [membersOf, ipv4Members, List.mem_cons, List.not_mem_nil, or_false] at looked
      rcases looked with rfl | rfl | rfl | rfl <;> simp [there]
    simp only [ipv4Of, set, if_true, described.ipv4, any, if_false, Fits.ipv4, Option.some.injEq,
      ConnmanIpv4.mk.injEq, ne_eq, not_false_eq_true, forall_const]
    rw [typed.string "Method", typed.string "Address", typed.string "Netmask", typed.string "Gateway"]

/-- The prefix is never read, and the dictionary has no length of one either. -/
theorem TypedDictionary.prefixLength (typed : TypedDictionary k d) (looked : ("Prefix", .uint16) ∈ membersOf k)
    (without : ¬HasPrefixLength d) :
    Reading.basicFor d "Prefix" .uint16 = none ∧ d.lookup "PrefixLength" = none := by
  constructor
  · rw [Reading.basicFor]
    cases found : entryFor d "Prefix" with
    | none => rfl
    | some inner =>
      obtain ⟨name, there, begins⟩ := entryFor_mem found
      have sent := typed.known _ there
      have same := connmanMembers_distinct k _ looked _ sent (fun same => without ⟨_, there, same⟩) begins
      rw [← same] at sent
      exact absurd sent (by cases k with
        | updatable p => cases p <;> decide
        | _ => decide)
  · refine List.lookup_eq_none_iff.mpr fun entry there => ?_
    exact bne_iff_ne.mpr fun same => without ⟨entry, there, same.symm⟩

theorem ipv6_iff (typed : TypedDictionary (.updatable .ipv6) d) (without : ¬HasPrefixLength d)
    (old : Option ConnmanIpv6) : ipv6Of d old = described.ipv6 d ↔ Fits.ipv6 d (old.getD {}) := by
  by_cases any : d = []
  · subst any
    exact ⟨fun _ => ⟨without, fun any => absurd rfl any⟩, fun _ => rfl⟩
  · obtain ⟨member, looked, there⟩ := typed.somewhere without any
    obtain ⟨unread, unsaid⟩ := typed.prefixLength (by decide) without
    have set : ((Reading.basicFor d "Method" .string).isSome || (Reading.basicFor d "Address" .string).isSome ||
        (Reading.basicFor d "Prefix" .uint16).isSome || (Reading.basicFor d "Gateway" .string).isSome ||
        (Reading.basicFor d "Privacy" .string).isSome) = true := by
      have other : d.lookup "Prefix" = none := by
        refine List.lookup_eq_none_iff.mpr fun entry known => bne_iff_ne.mpr fun same => ?_
        have sent := typed.known entry known
        rw [← same] at sent
        simp [connmanMembersOf, connmanIpv6Members] at sent
      rw [typed.isSome "Method", typed.isSome "Address", typed.isSome "Gateway", typed.isSome "Privacy"]
      simp only [membersOf, ipv6Members, List.mem_cons, List.not_mem_nil, or_false] at looked
      rcases looked with rfl | rfl | rfl | rfl | rfl
      · simp [there]
      · simp [there]
      · rw [other] at there
        cases there
      · simp [there]
      · simp [there]
    have kept : ((Reading.basicFor d "Prefix" .uint16).map UInt16.toUInt8).getD (old.getD {}).prefixLength =
        (byteAt d "PrefixLength").getD 0 ↔ Unset d "PrefixLength" 0 (old.getD {}).prefixLength := by
      rw [unread, byteAt, Unset, unsaid]
      simp
    simp only [ipv6Of, set, if_true, described.ipv6, any, if_false, Fits.ipv6, Option.some.injEq,
      ConnmanIpv6.mk.injEq, ne_eq, not_false_eq_true, forall_const, without, true_and]
    rw [typed.string "Method", typed.string "Address", kept, typed.string "Gateway", typed.string "Privacy"]

theorem proxy_iff (typed : TypedDictionary (.updatable .proxy) d) (old : Option ConnmanProxy) :
    proxyOf d old = described.proxy d ↔ Fits.proxy d (old.getD {}) := by
  by_cases any : d = []
  · subst any
    exact ⟨fun _ any => absurd rfl any, fun _ => rfl⟩
  · obtain ⟨member, looked, there⟩ := typed.somewhere (fun sent => by simpa using typed.ipv6 sent) any
    have set : ((Reading.basicFor d "Method" .string).isSome || (Reading.basicFor d "URL" .string).isSome ||
        (stringsFor d "Servers").isSome || (stringsFor d "Excludes").isSome) = true := by
      rw [typed.isSome "Method", typed.isSome "URL", typed.strings_isSome "Servers",
        typed.strings_isSome "Excludes"]
      simp only [membersOf, proxyMembers, List.mem_cons, List.not_mem_nil, or_false] at looked
      rcases looked with rfl | rfl | rfl | rfl <;> simp [there]
    simp only [proxyOf, set, if_true, described.proxy, any, if_false, Fits.proxy, Option.some.injEq,
      ConnmanProxy.mk.injEq, ne_eq, not_false_eq_true, forall_const]
    rw [typed.string "Method", typed.string "URL", typed.strings "Servers", typed.strings "Excludes"]

theorem provider_iff (typed : TypedDictionary (.updatable .provider) d) (old : Option ConnmanProvider) :
    providerOf d old = described d (.updatable .provider) ↔ Fits d (.updatable .provider) old := by
  by_cases any : d = []
  · subst any
    exact ⟨fun _ any => absurd rfl any, fun _ => rfl⟩
  · obtain ⟨member, looked, there⟩ := typed.somewhere (fun sent => by simpa using typed.ipv6 sent) any
    have set : ((Reading.basicFor d "Host" .string).isSome || (Reading.basicFor d "Domain" .string).isSome ||
        (Reading.basicFor d "Name" .string).isSome || (Reading.basicFor d "Type" .string).isSome) = true := by
      rw [typed.isSome "Host", typed.isSome "Domain", typed.isSome "Name", typed.isSome "Type"]
      simp only [membersOf, providerMembers, List.mem_cons, List.not_mem_nil, or_false] at looked
      rcases looked with rfl | rfl | rfl | rfl <;> simp [there]
    simp only [providerOf, set, if_true, described, any, if_false, Fits, Option.some.injEq,
      ConnmanProvider.mk.injEq, ne_eq, not_false_eq_true, forall_const]
    rw [typed.string "Host", typed.string "Domain", typed.string "Name", typed.string "Type"]

theorem ethernet_iff (typed : TypedDictionary (.updatable .ethernet) d) (old : Option ConnmanEthernet) :
    ethernetOf d old = described d (.updatable .ethernet) ↔ Fits d (.updatable .ethernet) old := by
  by_cases any : d = []
  · subst any
    exact ⟨fun same => (Option.some_ne_none _ same).elim, fun fits => absurd rfl fits.1⟩
  · simp only [ethernetOf, described, any, if_false, Fits, Option.some.injEq, ConnmanEthernet.mk.injEq, ne_eq,
      not_false_eq_true, true_and]
    rw [typed.string "Method", typed.string "Interface", typed.string "Address", typed.uint16 "MTU",
      typed.uint16 "Speed", typed.string "Duplex"]

/-- What is stored is what the dictionary describes, unless the structure had
something it leaves out. -/
theorem taken_iff (typed : TypedDictionary k d) (struct : typeOf k = .dictionary) (without : ¬HasPrefixLength d)
    (old : k.Field) : taken (.dictionary d) k old = described d k ↔ Fits d k old := by
  have same : ∀ {k'}, connmanMembersOf k = connmanMembersOf k' → TypedDictionary k' d := fun same =>
    ⟨typed.wellFormed, typed.distinct, same ▸ typed.known⟩
  cases k with
  | updatable p =>
    cases p with
    | ipv4 | ipv4Configuration =>
      rw [taken, entriesOf_dictionary]
      exact ipv4_iff (same rfl) old
    | ipv6 | ipv6Configuration =>
      rw [taken, entriesOf_dictionary]
      exact ipv6_iff (same rfl) without old
    | proxy | proxyConfiguration =>
      rw [taken, entriesOf_dictionary]
      exact proxy_iff (same rfl) old
    | provider =>
      rw [taken, entriesOf_dictionary]
      exact provider_iff typed old
    | ethernet =>
      rw [taken, entriesOf_dictionary]
      exact ethernet_iff typed old
    | _ => cases struct
  | _ => cases struct

end Struct

/-! ## Histories -/

section Histories
variable {k : Key} {d : List (String × Body)} {arg : Body} {history : List Body}

/-- The update does not bring the length of a prefix. -/
def NoPrefixLength (arg : Body) : Prop :=
  ∀ k inner rest, serviceProperty arg = some k → arg.next = .variant inner rest → typeOf k = .dictionary →
    ¬HasPrefixLength (entriesOf inner)

/-- A well-typed update is taken in, unless it brings the length of a prefix. -/
theorem update_ok_iff (typed : TypedUpdate arg) (obj : Object Service.Property Record) :
    (∃ obj', updateServiceProperty arg obj = .ok obj') ↔ NoPrefixLength arg := by
  obtain ⟨wellFormed, typed⟩ := typed
  cases named : serviceProperty arg with
  | none =>
    refine ⟨fun _ k inner rest named' => ?_, fun _ => ⟨obj, ?_⟩⟩
    · rw [named] at named'
      cases named'
    · rw [updateServiceProperty, named]
  | some k =>
    obtain ⟨inner, rest, there, type, dictionary⟩ := typed k named
    by_cases struct : typeOf k = .dictionary
    · have whole : inner = .dictionary (entriesOf inner) := by
        have sound := wellFormed.next
        rw [there] at sound
        exact dictionary_typed (type.trans struct) sound.2.2.1
      have read := decode_dictionary (dictionary struct) struct rest (obj.rest k)
      rw [← whole] at read
      simp only [updateServiceProperty, named, there, read]
      by_cases sent : HasPrefixLength (entriesOf inner)
      · rw [if_pos sent]
        refine ⟨?_, fun none => absurd sent (none k inner rest named there struct)⟩
        rintro ⟨obj', ok⟩
        cases ok
      · rw [if_neg sent]
        refine ⟨fun _ k' inner' rest' named' there' _ => ?_, fun _ => ⟨_, rfl⟩⟩
        rw [there] at there'
        cases there'
        exact sent
    · have members : ∀ member ∈ membersOf k, EntryHasType (entriesOf inner) member := by
        have none : membersOf k = [] := by
          cases k with
          | updatable p =>
            cases p with
            | ipv4 | ipv4Configuration | ipv6 | ipv6Configuration | proxy | proxyConfiguration | provider | ethernet =>
              exact absurd rfl struct
            | _ => rfl
          | _ => rfl
        rw [none]
        exact fun member mem => absurd mem List.not_mem_nil
      have sound := wellFormed.next
      rw [there] at sound
      have read := decode_expected type members sound.2.2.1 rest (obj.rest k)
      simp only [updateServiceProperty, named, there, read]
      refine ⟨fun _ k' inner' rest' named' _ struct' => ?_, fun _ => ⟨_, rfl⟩⟩
      rw [named] at named'
      cases named'
      exact absurd struct' struct

/-- So is a history of them. -/
theorem updates_ok_iff (typed : ∀ arg ∈ history, TypedUpdate arg) :
    (∃ obj, updates history = .ok obj) ↔ ∀ arg ∈ history, NoPrefixLength arg := by
  suffices every : ∀ obj, (∃ obj', history.foldlM (fun obj arg => updateServiceProperty arg obj) obj = .ok obj') ↔
      ∀ arg ∈ history, NoPrefixLength arg from every _
  induction history with
  | nil => exact fun obj => ⟨fun _ => nofun, fun _ => ⟨obj, rfl⟩⟩
  | cons arg history ih =>
    intro obj
    have first := update_ok_iff (typed arg List.mem_cons_self) obj
    have later := ih fun arg there => typed arg (List.mem_cons_of_mem _ there)
    rw [List.foldlM_cons, List.forall_mem_cons]
    cases read : updateServiceProperty arg obj with
    | error fault =>
      rw [read] at first
      refine ⟨fun ⟨obj', ok⟩ => (nomatch ok), fun none => ?_⟩
      obtain ⟨obj', ok⟩ := first.mpr none.1
      cases ok
    | ok obj' => exact ⟨fun ok => ⟨first.mp ⟨obj', read⟩, (later obj').mp ok⟩, fun none => (later obj').mpr none.2⟩

/-- What a history leaves does not get in the way of a dictionary. -/
def Suits (history : List Body) (k : Key) (d : List (String × Body)) : Prop :=
  (∀ arg ∈ history, NoPrefixLength arg) ∧ ∀ obj, updates history = .ok obj → Fits d k (obj.rest k)

/-- After either history a dictionary is stored as it is. -/
def OnlyLast (history₁ history₂ : List Body) (k : Key) (d : List (String × Body)) : Prop :=
  ∃ obj₁ obj₂, updates (history₁ ++ [changed k d]) = .ok obj₁ ∧ updates (history₂ ++ [changed k d]) = .ok obj₂ ∧
    obj₁.rest k = obj₂.rest k ∧ obj₁.rest k = described d k

theorem serviceProperty_changed (k : Key) (d : List (String × Body)) : serviceProperty (changed k d) = some k := by
  cases k with
  | updatable p => cases p <;> rfl
  | _ => rfl

theorem update_changed (k : Key) (d : List (String × Body)) (obj : Object Service.Property Record) :
    updateServiceProperty (changed k d) obj =
      (decode (.variant (.dictionary d) .nil) k (obj.rest k)).map (storeService obj k) := by
  rw [updateServiceProperty, serviceProperty_changed]
  rfl

theorem updates_snoc (history : List Body) (arg : Body) :
    updates (history ++ [arg]) = (updates history).bind (updateServiceProperty arg) := by
  simp only [updates, List.foldlM_append, List.foldlM_cons, List.foldlM_nil, bind_pure]
  rfl

/-- A dictionary is stored as it is after a history exactly if the history
suits it. -/
theorem stored_iff (typed : ∀ arg ∈ history, TypedUpdate arg) (struct : typeOf k = .dictionary)
    (dictionary : TypedDictionary k d) :
    (∃ obj, updates (history ++ [changed k d]) = .ok obj ∧ obj.rest k = described d k) ↔ Suits history k d := by
  rw [updates_snoc]
  cases reached : updates history with
  | error fault =>
    refine ⟨fun ⟨obj, ok, _⟩ => (nomatch ok), fun suits => ?_⟩
    obtain ⟨obj, ok⟩ := (updates_ok_iff typed).mpr suits.1
    rw [reached] at ok
    cases ok
  | ok obj =>
    have none := (updates_ok_iff typed).mp ⟨obj, reached⟩
    have fits : Suits history k d ↔ Fits d k (obj.rest k) := by
      refine ⟨fun suits => suits.2 obj reached, fun fits => ⟨none, fun obj' reached' => ?_⟩⟩
      rw [reached] at reached'
      cases reached'
      exact fits
    have read := decode_dictionary dictionary struct .nil (obj.rest k)
    rw [fits]
    show (∃ obj', updateServiceProperty (changed k d) obj = .ok obj' ∧ obj'.rest k = described d k) ↔ _
    rw [update_changed, read]
    by_cases sent : HasPrefixLength d
    · rw [if_pos sent]
      refine ⟨fun ⟨obj', ok, _⟩ => (nomatch ok), fun fits => ?_⟩
      rcases dictionary.ipv6 sent with rfl | rfl
      · exact absurd sent fits.1
      · exact absurd sent fits.1
    · rw [if_neg sent, ← taken_iff dictionary struct sent]
      constructor
      · rintro ⟨obj', ok, same⟩
        cases ok
        exact (Function.update_self ..).symm.trans same
      · intro same
        exact ⟨_, rfl, (Function.update_self ..).trans same⟩

/-- What is stored of a dictionary depends on the dictionary alone, for two
histories, exactly if both leave nothing it would have had to take away. -/
theorem only_last_iff {history₁ history₂ : List Body} (typed₁ : ∀ arg ∈ history₁, TypedUpdate arg)
    (typed₂ : ∀ arg ∈ history₂, TypedUpdate arg) (struct : typeOf k = .dictionary)
    (dictionary : TypedDictionary k d) :
    OnlyLast history₁ history₂ k d ↔ Suits history₁ k d ∧ Suits history₂ k d := by
  rw [← stored_iff typed₁ struct dictionary, ← stored_iff typed₂ struct dictionary]
  constructor
  · rintro ⟨obj₁, obj₂, ok₁, ok₂, same, stored⟩
    exact ⟨⟨obj₁, ok₁, stored⟩, ⟨obj₂, ok₂, same.symm.trans stored⟩⟩
  · rintro ⟨⟨obj₁, ok₁, stored₁⟩, ⟨obj₂, ok₂, stored₂⟩⟩
    exact ⟨obj₁, obj₂, ok₁, ok₂, stored₁.trans stored₂.symm, stored₁⟩

theorem typedUpdate_changed (struct : typeOf k = .dictionary) (dictionary : TypedDictionary k d) :
    TypedUpdate (changed k d) := by
  refine ⟨⟨?_, ?_, dictionary.wellFormed, trivial⟩, fun k' named => ?_⟩
  · rw [Body.sig_dictionary]
    rfl
  · rw [Body.sig_dictionary]
    rfl
  · rw [serviceProperty_changed] at named
    cases named
    refine ⟨.dictionary d, .nil, rfl, (Body.sig_dictionary d).trans struct.symm, fun _ => ?_⟩
    rw [entriesOf_dictionary]
    exact dictionary

/-- A service that has an address takes in another, and a gateway. -/
theorem only_last_iff_gateway :
    let address : Body := changed (.updatable .ipv4)
      [("Address", .basic .string "10.0.0.2" .nil), ("Method", .basic .string "dhcp" .nil)]
    OnlyLast [address] [] (.updatable .ipv4) [("Method", .basic .string "manual" .nil),
      ("Address", .basic .string "10.0.0.9" .nil), ("Gateway", .basic .string "10.0.0.1" .nil)] := by
  intro address
  refine (only_last_iff ?_ ?_ rfl (by decide)).mpr ⟨⟨?_, ?_⟩, nofun, ?_⟩
  · intro arg there
    cases List.mem_singleton.mp there
    exact typedUpdate_changed rfl (by decide)
  · nofun
  · intro arg there k inner rest named there'
    cases List.mem_singleton.mp there
    cases there'
    intro _
    decide
  · intro obj reached
    cases reached
    intro _
    refine ⟨nofun, nofun, fun _ => rfl, nofun⟩
  · intro obj reached
    cases reached
    exact fun _ => ⟨fun _ => rfl, fun _ => rfl, fun _ => rfl, fun _ => rfl⟩

/-- A gateway survives a dictionary that has none. -/
theorem not_only_last :
    let routed : Body := changed (.updatable .ipv4)
      [("Method", .basic .string "dhcp" .nil), ("Gateway", .basic .string "10.0.0.1" .nil)]
    let off : List (String × Body) := [("Method", .basic .string "off" .nil)]
    TypedUpdate routed ∧ TypedDictionary (.updatable .ipv4) off ∧ ¬OnlyLast [routed] [] (.updatable .ipv4) off := by
  refine ⟨typedUpdate_changed rfl (by decide), by decide, ?_⟩
  rintro ⟨obj₁, obj₂, ok₁, ok₂, same, -⟩
  cases ok₁
  cases ok₂
  cases same

end Histories

end ConnmanUi.Reading
