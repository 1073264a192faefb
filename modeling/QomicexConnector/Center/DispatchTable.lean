import QomicexConnector.Center.ScaffoldingCenter

namespace QomicexConnector
namespace Center

open Library

/-!
# The dispatch table and the advertised keys

`start` goes through the custom protocols three times: for the key check, for the keys that
`c:protocols` advertises and for the handlers of the server, whose table is then collected by
key.  The first two begin with six standard keys and the third one with five handlers, the
flag key having none.  After the check the three agree.
-/

/-- The standard key that is advertised without a handler. -/
def flagKey : String := "c:player_easytier_id"

theorem standardKeys_eq : standardKeys = standardHandlerKeys ++ [flagKey] := rfl

section Table

variable {σ : Type}

/-- The table holds the handlers, each under its own key, and what is advertised are its keys
and the flag. -/
structure ServesKeys (table : HashMap String (ProtocolHandler σ))
    (protocols : List (ProtocolHandler σ)) (advertised : List String) : Prop where
  found : ∀ key ∈ advertised, key ≠ flagKey →
    ∃ handler ∈ protocols, handler.key = key ∧ table.lookup key = some handler
  only : ∀ key handler, table.lookup key = some handler →
    key ∈ advertised ∧ key ≠ flagKey ∧ handler ∈ protocols ∧ handler.key = key
  kept : ∀ handler ∈ protocols, table.lookup handler.key = some handler
  entries : table.keys.length = protocols.length
  once : advertised.Nodup
  exactly : advertised.Perm (flagKey :: table.keys)

/-- The check passes exactly if the custom keys are distinct and new. -/
theorem checkCustomKeys_isOk_iff {keys : List String} :
    (∃ accepted, checkCustomKeys standardKeys keys = .ok accepted) ↔
      keys.Nodup ∧ ∀ key ∈ keys, key ∉ standardKeys := by
  have standard : standardKeys.Nodup := by decide
  constructor
  · rintro ⟨accepted, checked⟩
    have distinct := ((checkCustomKeys_eq_ok_iff standard).mp checked).1
    rw [List.nodup_append] at distinct
    exact ⟨distinct.2.1, fun key listed old => distinct.2.2 key old key listed rfl⟩
  · rintro ⟨distinct, new⟩
    refine ⟨_, (checkCustomKeys_eq_ok_iff standard).mpr ⟨?_, rfl⟩⟩
    rw [List.nodup_append]
    exact ⟨standard, distinct, fun old member key listed same => new key listed (same ▸ member)⟩

theorem hostConfigOf_isOk_iff (config : CenterConfig) :
    (∃ host, hostConfigOf config = .ok host) ↔
      ∃ accepted, checkCustomKeys standardKeys config.customKeys = .ok accepted := by
  rw [hostConfigOf]
  split
  · next error refused =>
      rw [refused]
      exact iff_of_false nofun nofun
  · next accepted passed => exact iff_of_true ⟨_, rfl⟩ ⟨accepted, passed⟩

variable (config : HandlerConfig σ) (custom : List (ProtocolHandler σ)) {accepted : List String}

/-- The advertised keys are those of the handlers and the flag. -/
theorem advertisedKeys_perm :
    (advertisedKeys (custom.map ProtocolHandler.key)).Perm
      (flagKey :: (assembleProtocols config custom).map ProtocolHandler.key) := by
  rw [advertisedKeys, standardKeys_eq, assembleProtocols_keys, List.append_assoc,
    List.singleton_append]
  exact List.perm_middle

variable {custom}

theorem advertisedKeys_nodup
    (checked : checkCustomKeys standardKeys (custom.map ProtocolHandler.key) = .ok accepted) :
    (advertisedKeys (custom.map ProtocolHandler.key)).Nodup :=
  ((checkCustomKeys_eq_ok_iff (by decide)).mp checked).1

theorem assembleProtocols_nodup
    (checked : checkCustomKeys standardKeys (custom.map ProtocolHandler.key) = .ok accepted) :
    ((assembleProtocols config custom).map ProtocolHandler.key).Nodup ∧
      flagKey ∉ (assembleProtocols config custom).map ProtocolHandler.key := by
  have distinct := (advertisedKeys_perm config custom).nodup_iff.mp (advertisedKeys_nodup checked)
  rw [List.nodup_cons] at distinct
  exact ⟨distinct.2, distinct.1⟩

/-- No handler is overwritten when the table is collected. -/
theorem keys_protocolTable
    (checked : checkCustomKeys standardKeys (custom.map ProtocolHandler.key) = .ok accepted) :
    (protocolTable (assembleProtocols config custom)).keys =
      ((assembleProtocols config custom).map ProtocolHandler.key).reverse := by
  have same : ((assembleProtocols config custom).map fun handler => (handler.key, handler)).map
      Prod.fst = (assembleProtocols config custom).map ProtocolHandler.key := by
    rw [List.map_map]
    rfl
  rw [protocolTable, HashMap.keys_collect (same ▸ (assembleProtocols_nodup config checked).1), same]

theorem servesKeys_of_checked
    (checked : checkCustomKeys standardKeys (custom.map ProtocolHandler.key) = .ok accepted) :
    ServesKeys (protocolTable (assembleProtocols config custom)) (assembleProtocols config custom)
      (advertisedKeys (custom.map ProtocolHandler.key)) := by
  have advertised := advertisedKeys_perm config custom
  have keys := keys_protocolTable config checked
  refine ⟨?_, ?_, ?_, ?_, advertisedKeys_nodup checked, ?_⟩
  · intro key listed notFlag
    rcases List.mem_cons.mp (advertised.mem_iff.mp listed) with flag | own
    · exact absurd flag notFlag
    · rcases List.mem_map.mp own with ⟨handler, member, keyIs⟩
      exact ⟨handler, member, keyIs, (lookup_protocolTable config checked).mpr ⟨member, keyIs⟩⟩
  · intro key handler found
    rcases (lookup_protocolTable config checked).mp found with ⟨member, rfl⟩
    have own := List.mem_map_of_mem (f := ProtocolHandler.key) member
    refine ⟨advertised.mem_iff.mpr (List.mem_cons_of_mem flagKey own), ?_, member, rfl⟩
    intro flag
    exact (assembleProtocols_nodup config checked).2 (flag ▸ own)
  · exact fun handler member => (lookup_protocolTable config checked).mpr ⟨member, rfl⟩
  · rw [keys, List.length_reverse, List.length_map]
  · rw [keys]
    exact advertised.trans ((List.reverse_perm _).symm.cons flagKey)

variable (custom)

/-- The check refuses a list of custom protocols exactly for a key that is repeated or
standard; after it the table and the advertised keys agree with the handlers. -/
theorem checked_table_serves_advertised :
    (∀ center : CenterConfig, center.customKeys = custom.map ProtocolHandler.key →
      ((∃ host, hostConfigOf center = .ok host) ↔
        (custom.map ProtocolHandler.key).Nodup ∧
          ∀ key ∈ custom.map ProtocolHandler.key, key ∉ standardKeys)) ∧
    ((custom.map ProtocolHandler.key).Nodup ∧
        (∀ key ∈ custom.map ProtocolHandler.key, key ∉ standardKeys) →
      ServesKeys (protocolTable (assembleProtocols config custom)) (assembleProtocols config custom)
        (advertisedKeys (custom.map ProtocolHandler.key)) ∧
      ∀ (request : ProtocolRequest) (state : σ), request.key = "c:protocols" →
        dispatch (protocolTable (assembleProtocols config custom)) request state =
          (⟨0, utf8Bytes (joinNul (advertisedKeys (custom.map ProtocolHandler.key)))⟩, state)) := by
  constructor
  · rintro center keys
    rw [hostConfigOf_isOk_iff, keys, checkCustomKeys_isOk_iff]
  · intro allowed
    rcases checkCustomKeys_isOk_iff.mpr allowed with ⟨accepted, checked⟩
    refine ⟨servesKeys_of_checked config checked, fun request state key => ?_⟩
    have listed : protocolsProtocol (advertisedKeys (custom.map ProtocolHandler.key)) ∈
        assembleProtocols config custom :=
      List.mem_append_left _ (List.mem_cons_of_mem _ List.mem_cons_self)
    have found : (protocolTable (assembleProtocols config custom)).lookup "c:protocols" =
        some (protocolsProtocol (advertisedKeys (custom.map ProtocolHandler.key))) :=
      (lookup_protocolTable config checked).mpr ⟨listed, rfl⟩
    rw [dispatch, key, found]
    rfl

end Table

end Center
end QomicexConnector
