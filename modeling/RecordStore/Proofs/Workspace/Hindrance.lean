import RecordStore.Proofs.Workspace

/-!
# When nothing hinders a connection

A connection reads, writes and commits where nothing stands in its way: neither
what it may do, nor what lies around its file, nor the locks of others.  What it
locks itself makes no difference to the locks of others that it meets, whatever
it has locked before.

Main statements: `Workspace.writeHindrance?_eq_none_iff`,
`Workspace.readHindrance?_eq_none_iff` and `Workspace.othersLocks_exchange`.
-/

namespace RecordStore

theorem Path.isMemoryFile_of_onDisk {place : Place} (onDisk : isInMemory place = false) :
    isMemoryFile place = false := by
  rw [isInMemory] at onDisk
  rw [isMemoryFile]
  match place with
  | [] => rfl
  | [name] => simp
  | name :: next :: rest =>
      have notInMemory : name ≠ "" := by simpa using onDisk
      simp [notInMemory]

namespace Workspace

variable {workspace other : Workspace} {connection : Connection} {own : Option Lock}

/-! ## Nothing hinders -/

theorem openingHindrance?_eq_none_iff :
    workspace.openingHindrance? connection own = none ↔
      workspace.isBusyForReading connection own = false ∧
        workspace.isUnreadable connection own = false := by
  rw [openingHindrance?]
  split
  · next busy => simp [busy]
  · next notBusy =>
      split
      · next unreadable => simp [unreadable]
      · next readable => simp [notBusy, readable]

theorem readHindrance?_eq_none_iff {table : String} :
    workspace.readHindrance? connection own table = none ↔
      workspace.isBusyForReading connection own = false ∧
        workspace.isUnreadable connection own = false ∧
          ∀ changed ∈ workspace.changedElsewhere? connection (own.any Lock.isWriting),
            Text.sameName table changed = false := by
  simp only [readHindrance?, Option.orElse_eq_orElse, Option.orElse_eq_or, Option.or_eq_none_iff,
    openingHindrance?_eq_none_iff, and_assoc, Option.map_eq_none_iff, Option.filter_eq_none_iff]
  simp

/-- What is to be the case for changes to be made. -/
structure IsWritable (workspace : Workspace) (connection : Connection) (own : Option Lock) :
    Prop where
  notReadOnly : connection.isReadOnly = false
  alone : workspace.changedElsewhere? connection (own.any Lock.isWriting) = none
  notBusy : workspace.isBusyForWriting connection own = false
  readable : workspace.isUnreadable connection own = false
  hasJournal : ∀ place, connection.place = some place → workspace.lacksJournal place = false
  hasSpace : workspace.lacksSpace connection = false

theorem writeHindrance?_eq_none_iff :
    workspace.writeHindrance? connection own = none ↔ workspace.IsWritable connection own := by
  have journals :
      connection.place.any workspace.lacksJournal = false ↔
        ∀ place, connection.place = some place → workspace.lacksJournal place = false := by
    cases connection.place <;> simp
  rw [writeHindrance?]
  constructor
  · intro free
    split at free
    · contradiction
    · next notReadOnly =>
        split at free
        · contradiction
        · next alone =>
            split at free
            · contradiction
            · next notBusy =>
                split at free
                · contradiction
                · next readable =>
                    split at free
                    · contradiction
                    · next hasJournal =>
                        split at free
                        · contradiction
                        · next hasSpace =>
                            exact
                              { notReadOnly := by simpa using notReadOnly
                                alone := by simpa using alone
                                notBusy := by simpa using notBusy
                                readable := by simpa using readable
                                hasJournal := journals.mp (by simpa using hasJournal)
                                hasSpace := by simpa using hasSpace }
  · intro writable
    simp [writable.notReadOnly, writable.alone, writable.notBusy, writable.readable,
      journals.mpr writable.hasJournal, writable.hasSpace]

/-- What can be changed can be read, and nobody else is changing a table of it. -/
theorem IsWritable.readHindrance?_eq
    (writable : workspace.IsWritable connection own)
    (table : String) :
    workspace.readHindrance? connection own table = none := by
  refine readHindrance?_eq_none_iff.mpr ⟨?_, writable.readable, ?_⟩
  · rw [isBusyForReading, Bool.and_eq_false_iff]
    right
    apply List.any_eq_false.mpr
    intro lock met
    have notBusy := writable.notBusy
    rw [isBusyForWriting, List.any_eq_false] at notBusy
    have notWriting := notBusy lock met
    cases lock with
    | reading => simp
    | writing | exclusive => exact absurd rfl notWriting
  · intro changed isChanged
    cases isChanged.symm.trans writable.alone

theorem commitHindrance?_eq_none_iff :
    workspace.commitHindrance? connection own = none ↔
      workspace.isBusyForCommit connection own = false ∧
        workspace.lacksSpace connection = false := by
  rw [commitHindrance?]
  split
  · next busy => simp [busy]
  · next notBusy =>
      split
      · next full => simp [full]
      · next hasSpace => simp [notBusy, hasSpace]

theorem changeHindrance?_eq_none_iff :
    workspace.changeHindrance? connection = none ↔
      workspace.writeHindrance? connection none = none ∧
        workspace.commitHindrance? connection none = none := by
  simp only [changeHindrance?, Option.orElse_eq_orElse, Option.orElse_eq_or, Option.or_eq_none_iff]

/-! ## What connections change -/

/-- Saving changes entries alone. -/
theorem save_eq_entries (workspace : Workspace) (connection : Connection) (database : Database) :
    workspace.save connection database =
      { workspace with entries := (workspace.save connection database).entries } := by
  cases isPlace : connection.place with
  | none => simp only [save, isPlace]
  | some place =>
      rcases workspace.save_eq_or isPlace database with same | ⟨_, _, written⟩
      · rw [same]
      · rw [written]
        rfl

/-- What is being changed is known from the shares alone. -/
theorem setChanging_eq_shares
    (workspace : Workspace)
    (connection : Connection)
    (table : Option String) :
    workspace.setChanging connection table =
      { workspace with shares := (workspace.setChanging connection table).shares } := by
  rw [setChanging]
  split
  · rfl
  · split
    · rfl
    · split <;> rfl

/-- Other locks leave the rest of the workspace as it is. -/
theorem exchange_eq_holds
    (workspace : Workspace)
    (connection : Connection)
    (before after : Option Lock) :
    workspace.exchange connection before after =
      { workspace with holds := (workspace.exchange connection before after).holds } := by
  rw [exchange]
  split <;> rfl

@[simp]
theorem entries_exchange {before after : Option Lock} :
    (workspace.exchange connection before after).entries = workspace.entries := by
  rw [exchange_eq_holds]

@[simp]
theorem shares_exchange {before after : Option Lock} :
    (workspace.exchange connection before after).shares = workspace.shares := by
  rw [exchange_eq_holds]

@[simp]
theorem exchange_self (lock : Option Lock) : workspace.exchange connection lock lock = workspace :=
  if_pos rfl

/-- Whoever is writing already is not hindered by what is made known. -/
theorem hindrances_setChanging
    (workspace : Workspace)
    (connection : Connection)
    (changing : Option String)
    (isWriting : own.any Lock.isWriting = true)
    (table : String) :
    (workspace.setChanging connection changing).readHindrance? connection own table =
        workspace.readHindrance? connection own table ∧
      (workspace.setChanging connection changing).writeHindrance? connection own =
          workspace.writeHindrance? connection own ∧
        (workspace.setChanging connection changing).commitHindrance? connection own =
          workspace.commitHindrance? connection own := by
  rw [setChanging_eq_shares]
  refine ⟨?_, ?_, rfl⟩
  · rw [readHindrance?, readHindrance?, isWriting, changedElsewhere?_of_changing,
      changedElsewhere?_of_changing]
    rfl
  · rw [writeHindrance?, writeHindrance?, isWriting, changedElsewhere?_of_changing,
      changedElsewhere?_of_changing]
    rfl

/-! ## Locks of others -/

theorem hold?_eq_some_iff {lock : Lock} {hold : Hold} :
    hold? connection lock = some hold ↔
      connection.isFrozen = false ∧ connection.place = some hold.place ∧ hold.lock = lock ∧
        hold.isShared = connection.isShared := by
  rw [hold?]
  split
  · next isFrozen => simp [isFrozen]
  · next notFrozen =>
      rcases hold with ⟨place, known, isShared⟩
      simp only [Option.map_eq_some_iff, Hold.mk.injEq]
      constructor
      · rintro ⟨_, isPlace, rfl, rfl, rfl⟩
        exact ⟨by simpa using notFrozen, isPlace, rfl, rfl⟩
      · rintro ⟨_, isPlace, rfl, rfl⟩
        exact ⟨place, isPlace, rfl, rfl, rfl⟩

/-- The locks of others that are met depend on the locks that are held alone. -/
theorem othersLocks_congr
    (same : other.holds = workspace.holds)
    (connection : Connection)
    (own : Option Lock) :
    other.othersLocks connection own = workspace.othersLocks connection own := by
  simp only [othersLocks, holdsWithout, same]

/-- A lock of another connection that is met. -/
def meets (connection : Connection) (hold : Hold) : Bool :=
  connection.place == some hold.place && !(connection.isShared && hold.isShared)

theorem othersLocks_eq
    (workspace : Workspace)
    (connection : Connection)
    (own : Option Lock) :
    workspace.othersLocks connection own =
      if connection.isFrozen then []
      else ((workspace.holdsWithout connection own).filter (meets connection)).map Hold.lock :=
  rfl

/-- Whoever gives up a lock that was just taken meets what was met before. -/
theorem filter_release_cons {holds : List Hold} {hold : Hold}
    (alone :
      hold.lock.isWriting = true →
        ∀ known ∈ holds, meets connection known = true → known.lock.isWriting = false) :
    (release (hold :: holds) hold).filter (meets connection) = holds.filter (meets connection) := by
  rw [release]
  split
  · simp
  · next isWriting =>
      have writes : hold.lock.isWriting = true := by simpa [Lock.isWriting] using isWriting
      rw [List.filter_cons_of_neg (by simpa using isWriting), List.filter_filter]
      apply List.filter_congr
      intro known isKnown
      cases met : meets connection known with
      | false => rfl
      | true =>
          have reads := alone writes known isKnown met
          have isReading : known.lock = .reading := by simpa [Lock.isWriting] using reads
          simp [isReading]

theorem holdsWithout_eq_release {lock : Lock} {hold : Hold}
    (isHold : hold? connection lock = some hold) :
    workspace.holdsWithout connection (some lock) = release workspace.holds hold := by
  simp [holdsWithout, isHold]

theorem holdsWithout_eq_holds (isFree : own.bind (hold? connection) = none) :
    workspace.holdsWithout connection own = workspace.holds := by
  simp [holdsWithout, isFree]

/-- Nobody else that is met writes where one may begin to. -/
theorem isWriting_eq_false_of_mem {known : Hold}
    (notFrozen : connection.isFrozen = false)
    (notBusy : workspace.isBusyForWriting connection own = false)
    (isKnown : known ∈ workspace.holdsWithout connection own)
    (met : meets connection known = true) :
    known.lock.isWriting = false := by
  rw [isBusyForWriting, othersLocks_eq, if_neg (by simp [notFrozen])] at notBusy
  simp only [List.any_eq_false, List.mem_map, List.mem_filter] at notBusy
  simpa using notBusy known.lock ⟨known, ⟨isKnown, met⟩, rfl⟩

/-- The locks of others that a connection meets are the same after it has locked something else. -/
theorem othersLocks_exchange {before after : Option Lock}
    (alone :
      after.any Lock.isWriting = true → workspace.isBusyForWriting connection before = false) :
    (workspace.exchange connection before after).othersLocks connection after =
      workspace.othersLocks connection before := by
  rw [exchange]
  split
  · next same => rw [same]
  · rw [othersLocks_eq, othersLocks_eq]
    cases notFrozen : connection.isFrozen with
    | true => rfl
    | false =>
        simp only [Bool.false_eq_true, if_false]
        congr 1
        cases isHold : after.bind (hold? connection) with
        | none => rw [holdsWithout_eq_holds isHold]; rfl
        | some hold =>
            obtain ⟨lock, rfl, isHold⟩ := Option.bind_eq_some_iff.mp isHold
            obtain ⟨-, -, isLock, -⟩ := hold?_eq_some_iff.mp isHold
            rw [holdsWithout_eq_release isHold]
            apply filter_release_cons
            intro writes known isKnown met
            rw [isLock] at writes
            exact isWriting_eq_false_of_mem notFrozen (alone writes) isKnown met

/-- A lock that is met by a connection is held at its place. -/
theorem exists_of_mem_othersLocks {lock : Lock}
    (met : lock ∈ workspace.othersLocks connection own) :
    ∃ hold ∈ workspace.holds, connection.place = some hold.place ∧ hold.lock = lock := by
  have kept : workspace.holdsWithout connection own ⊆ workspace.holds := by
    rw [holdsWithout]
    split
    · exact List.Subset.refl _
    · rw [release]
      split
      · exact List.erase_subset
      · exact List.filter_sublist.subset
  rw [othersLocks_eq] at met
  split at met
  · contradiction
  · rcases List.mem_map.mp met with ⟨hold, isMet, rfl⟩
    rcases List.mem_filter.mp isMet with ⟨member, met⟩
    simp only [meets, Bool.and_eq_true, beq_iff_eq] at met
    exact ⟨hold, kept member, met.1, rfl⟩

/-- Who writes at a place after an exchange has done so before, or is the one that took the lock. -/
theorem eq_of_writing_of_exchange {before after : Option Lock} {hold : Hold}
    (isOwn :
      ∀ known ∈ workspace.holds, known.place = hold.place → known.lock.isWriting = true →
        before.bind (hold? connection) = some known)
    (member : hold ∈ (workspace.exchange connection before after).holds)
    (isWriting : hold.lock.isWriting = true) :
    after.bind (hold? connection) = some hold := by
  rw [exchange] at member
  split at member
  · next same => rw [← same]; exact isOwn hold member rfl isWriting
  · rcases List.mem_append.mp member with isNew | isLeft
    · exact Option.mem_toList.mp isNew
    · exfalso
      rw [holdsWithout] at isLeft
      split at isLeft
      · next none =>
          rw [isOwn hold isLeft rfl isWriting] at none
          contradiction
      · next own isSome =>
          have sameOwn (known : hold ∈ workspace.holds) : own = hold :=
            Option.some.inj (isSome.symm.trans (isOwn hold known rfl isWriting))
          rw [release] at isLeft
          split at isLeft
          · next isReading =>
              rw [← sameOwn (List.mem_of_mem_erase isLeft), isReading] at isWriting
              contradiction
          · rcases List.mem_filter.mp isLeft with ⟨known, isOther⟩
            rw [sameOwn known] at isOther
            simp only [bne_self_eq_false, Bool.false_or, beq_iff_eq] at isOther
            rw [isOther] at isWriting
            contradiction

theorem holds_exchange_congr {before after : Option Lock}
    (same : other.holds = workspace.holds) :
    (other.exchange connection before after).holds =
      (workspace.exchange connection before after).holds := by
  simp only [exchange, holdsWithout, same]
  split
  · exact same
  · rfl

/-- Once a connection has given up a lock that it took, no more is held than before. -/
theorem holds_exchange_subset {taken given : Workspace}
    (takes : taken.holds = (workspace.exchange connection none own).holds)
    (gives : given.holds = (taken.exchange connection own none).holds) :
    given.holds ⊆ workspace.holds := by
  rw [gives]
  cases own with
  | none =>
      rw [exchange_self] at takes ⊢
      rw [takes]
      exact List.Subset.refl _
  | some lock =>
      have apart : (none : Option Lock) ≠ some lock := nofun
      rw [exchange, if_neg apart] at takes
      rw [exchange, if_neg apart.symm]
      show holdsWithout taken connection (some lock) ⊆ workspace.holds
      cases isHold : hold? connection lock with
      | none =>
          have isFree : (some lock).bind (hold? connection) = none := isHold
          rw [holdsWithout_eq_holds isFree, takes, isFree, holdsWithout_eq_holds rfl]
          exact List.Subset.refl _
      | some hold =>
          have isOwn : (some lock).bind (hold? connection) = some hold := isHold
          rw [holdsWithout_eq_release isHold, takes, isOwn, holdsWithout_eq_holds rfl]
          show release (hold :: workspace.holds) hold ⊆ workspace.holds
          rw [release]
          split
          · rw [List.erase_cons_head]
            exact List.Subset.refl _
          · next isWriting =>
              intro known member
              rcases List.mem_filter.mp member with ⟨isKnown, remains⟩
              rcases List.mem_cons.mp isKnown with rfl | isOther
              · simp at remains
                exact absurd remains isWriting
              · exact isOther

/-- Nothing hinders a connection from reading a database of its own. -/
theorem readHindrance?_of_noPlace
    (noPlace : connection.place = none)
    (own : Option Lock)
    (table : String) :
    workspace.readHindrance? connection own table = none := by
  have unlocked : workspace.othersLocks connection own = [] := by
    rw [othersLocks_eq]
    split
    · rfl
    · simp [meets, noPlace]
  refine readHindrance?_eq_none_iff.mpr ⟨?_, ?_, ?_⟩
  · rw [isBusyForReading, unlocked]
    exact Bool.and_false _
  · simp [isUnreadable, noPlace]
  · simp [changedElsewhere?, noPlace]

theorem openingHindrance?_of_read {place : Path.Place} {database : Database}
    (isPlace : connection.place = some place)
    (reads : workspace.read connection = .ok database) :
    workspace.openingHindrance? connection none = none := by
  simp only [read, isPlace] at reads
  split at reads
  · contradiction
  · assumption

end Workspace

end RecordStore
