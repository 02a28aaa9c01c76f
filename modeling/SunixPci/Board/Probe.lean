import SunixPci.Support.Runs
import SunixPci.Support.Scan
import SunixPci.Board.DevTable

/-!
# Board — Probe

`sunix_pci_board_probe`: five searches of the bus, each of which goes through the whole table, row
by row, and through the devices with its vendor and device id for each row.

* `boardProbe_eq_scan`: a detection that succeeds is a scan in 250 lanes, one for each search and row.
* `boardProbe_identifies_iff`: it identifies every card just when no device with ids of a search
  shares a subdevice id with a row without being a card of the table.
* `boardProbe_misidentifies`: two cards that are not.
-/

namespace SunixPci.Board
open Runs

def ENOSPC : ℤ := 28

variable {D : Type}

/-! ### What a card is asked -/

/-- `gpio_card_type` and `gpio_ch_cnt`. -/
def PciDev.gpioCardType (dev : PciDev) : UChar := (dev.bar3_Byte7 &&& 0x18) >>> 3

def PciDev.gpioChCnt (dev : PciDev) : ℤ :=
  let cnt := (dev.bar3_Byte7 &&& 0x60) >>> 5
  if cnt = 0 ∧ dev.gpioCardType = 1 then 6
  else if cnt = 0 ∧ dev.gpioCardType = 2 then 8
  else if cnt = 1 then 16
  else if cnt = 2 then 32
  else cnt.toNat

/-- The last three tests of the search for SUN1999 cards. -/
def PciDev.answers (dev : PciDev) (row : PciBoard) : Bool :=
  dev.bar3_Byte5.setWidth 32 = row.part_number && dev.gpioCardType.setWidth 32 = row.card_type &&
    dev.gpioChCnt = row.gpio_ch_cnt

/-- One of the five searches: the ids it asks for, the tests it makes once the device is enabled,
and the fields it fills in beside those that all fill in. -/
structure BoardSearch (D : Type) where
  vendor : U32
  device : U32
  accepts : PciBoard → PciDev → Bool
  fill : PciDev → SunixBoard D → SunixBoard D

/-- Golden serial and multi-I/O boards: rows with a part number are left to other searches. -/
def searchGoldenSerial : BoardSearch D where
  vendor := VENID_GOLDEN
  device := DEVID_G_SERIAL
  accepts row _ := row.part_number = 0x00
  fill _ sb := sb

def searchGoldenParallel : BoardSearch D where
  vendor := VENID_GOLDEN
  device := DEVID_G_PARALL
  accepts _ _ := true
  fill _ sb := sb

def searchMatrixSerial : BoardSearch D where
  vendor := VENID_MATRIX
  device := DEVID_M_SERIAL
  accepts _ _ := true
  fill _ sb := sb

/-- SUN1999 boards, which are asked what they are. -/
def searchSun1999 : BoardSearch D where
  vendor := VENID_SUN1999
  device := DEVID_S_SERIAL
  accepts row dev := dev.answers row
  fill dev sb := { sb with
    oem_id := dev.bar3_Byte5.setWidth 32 ||| (dev.bar3_Byte6.setWidth 32 <<< 8) |||
      (dev.bar3_Byte7.setWidth 32 <<< 16)
    uart_cnt := sb.pb_info.num_serport.toInt
    gpio_chl_cnt := dev.gpioChCnt
    board_uart_type := (dev.bar3_Byte5 &&& 0xc0) >>> 6
    board_gpio_card_type := dev.gpioCardType
    board_gpio_type := (dev.bar3_Byte7 &&& 0x80) >>> 7 }

/-- SUN1999 parallel boards; the device id is that of the search before. -/
def searchSun1999Parallel : BoardSearch D where
  vendor := VENID_SUN1999
  device := DEVID_S_PARALL
  accepts _ _ := true
  fill _ sb := sb

def boardSearches : List (BoardSearch D) :=
  [searchGoldenSerial, searchGoldenParallel, searchMatrixSerial, searchSun1999,
    searchSun1999Parallel]

/-! ### The detection -/

/-- The devices that `pci_get_device` returns. -/
def BoardSearch.scans (search : BoardSearch D) (dev : PciDev) : Bool :=
  dev.vendor.setWidth 32 = search.vendor && dev.device.setWidth 32 = search.device

/-- A row of the search: `tablecnt`, with what the two tables hold there. -/
structure BoardRow where
  tablecnt : ℕ
  id : PciDeviceId
  conf : PciBoard
deriving DecidableEq

def boardRows : List BoardRow :=
  (sunixPciBoardId.zip snxPciBoardConf).zipIdx.map fun ((id, conf), i) => ⟨i, id, conf⟩

/-- The entry that a device gets. -/
def boardEntry (search : BoardSearch D) (row : BoardRow) (d : D) (dev : PciDev) (boardcnt : ℕ) :
    SunixBoard D :=
  let pb_info := snxPciBoardConf.getD row.id.driver_data .zero
  search.fill dev { (.blank : SunixBoard D) with
    pdev := some d
    bus_number := dev.bus_number
    dev_number := dev.slot
    board_enum := row.id.driver_data
    pb_info := pb_info
    board_flag := pb_info.board_flag
    board_number := boardcnt - 1 }

/-- The searches, row by row. -/
def boardLanes : List (BoardSearch D × BoardRow) :=
  boardSearches.flatMap fun search => boardRows.map (search, ·)

section Detection
variable [DecidableEq D]

/-- One turn of a search.  `found` is the table so far, and the pointers in it are `pdev_array`;
`enable` is what `pci_enable_device` returns.  An error is the status that the detection returns. -/
def probeDevice (bus : PciBus D) (enable : D → ℤ) (search : BoardSearch D) (row : BoardRow)
    (found : List (SunixBoard D)) (d : D) : Except ℤ (List (SunixBoard D)) :=
  if 0 < row.tablecnt ∧ some d ∈ found.map (·.pdev) then .ok found
  else if (bus.info d).subdevice = 0 then .error (- EIO)
  else if (bus.info d).subdevice.setWidth 32 ≠ row.id.subdevice then .ok found
  else if enable d ≠ 0 then .error (- ENXIO)
  else if !search.accepts row.conf (bus.info d) then .ok found
  else if SNX_BOARDS_MAX < found.length + 1 then .error (- ENOSPC)
  else .ok (found ++ [boardEntry search row d (bus.info d) (found.length + 1)])

/-- The devices for one row. -/
def probeRow (bus : PciBus D) (enable : D → ℤ) (found : List (SunixBoard D))
    (lane : BoardSearch D × BoardRow) : Except ℤ (List (SunixBoard D)) :=
  (bus.devices.filter fun d => lane.1.scans (bus.info d)).foldlM
    (probeDevice bus enable lane.1 lane.2) found

/-- `sunix_pci_board_probe`: the entries that are filled in, `snx_board_count` of them, or the
status that it returns. -/
def sunixPciBoardProbe (bus : PciBus D) (enable : D → ℤ) : Except ℤ (List (SunixBoard D)) := do
  let found ← boardLanes.foldlM (probeRow bus enable) []
  if found.isEmpty then .error (- ENXIO) else return found

end Detection

/-- The table after a detection; the other entries stay cleared. -/
def boardTable (found : List (SunixBoard D)) : BoardTable D := fun i => found.getD i .blank

/-! ### The detection as a scan -/

/-- A search, at a row, takes a device. -/
def laneHits (bus : PciBus D) (lane : BoardSearch D × BoardRow) (d : D) : Bool :=
  lane.1.scans (bus.info d) && (bus.info d).subdevice.setWidth 32 = lane.2.id.subdevice &&
    lane.1.accepts lane.2.conf (bus.info d)

/-- At the first row, the test for devices that are in the table is left out. -/
def laneAgain (lane : BoardSearch D × BoardRow) : Bool := lane.2.tablecnt = 0

/-- The entries of the table, as what the scan takes. -/
def Marks (found : List (SunixBoard D)) (es : List ((BoardSearch D × BoardRow) × D)) : Prop :=
  found.map (fun sb => (sb.board_enum, sb.pdev)) =
    es.map fun e => ((e.1.2.id.driver_data : ℤ), some e.2)

variable {bus : PciBus D} {enable : D → ℤ} {found found' : List (SunixBoard D)}
  {es : List ((BoardSearch D × BoardRow) × D)}

theorem Marks.pdev (h : Marks found es) :
    found.map (·.pdev) = (es.map Prod.snd).map some := by
  have hsnd := congrArg (List.map Prod.snd) h
  simpa only [List.map_map, Function.comp_def] using hsnd

/-- The searches fill in neither the number of the row nor the device. -/
theorem boardEntry_mark {search : BoardSearch D} (hs : search ∈ boardSearches) (row : BoardRow)
    (d : D) (dev : PciDev) (n : ℕ) :
    (boardEntry search row d dev n).board_enum = row.id.driver_data ∧
      (boardEntry search row d dev n).pdev = some d := by
  simp only [boardSearches, List.mem_cons, List.not_mem_nil, or_false] at hs
  rcases hs with rfl | rfl | rfl | rfl | rfl <;> exact ⟨rfl, rfl⟩

section Detection
variable [DecidableEq D]

theorem probeDevice_marks {lane : BoardSearch D × BoardRow} {d : D}
    (hs : lane.1 ∈ boardSearches) (hscan : lane.1.scans (bus.info d) = true) (hm : Marks found es)
    (h : probeDevice bus enable lane.1 lane.2 found d = .ok found') :
    Marks found' (es ++
      if Scan.takes Prod.snd (laneHits bus) laneAgain es lane d then [(lane, d)] else []) := by
  have hmem : some d ∈ found.map (·.pdev) ↔ (es.map Prod.snd).contains d = true := by
    rw [hm.pdev, List.contains_iff_mem]
    simp
  have hnone : ∀ {b : Bool}, b = false →
      Marks found (es ++ if b = true then [(lane, d)] else []) := by
    rintro b rfl
    simpa using hm
  unfold probeDevice at h
  split at h
  · next hskip =>
      obtain rfl := Except.ok.inj h
      refine hnone ?_
      -- the device has an entry, and the row is not the first
      have hrow : ¬ lane.2.tablecnt = 0 := by omega
      rw [Scan.takes, hmem.mp hskip.2]
      simp [laneAgain, hrow]
  · next hskip =>
      split at h
      · cases h
      · split at h
        · next hid =>
            obtain rfl := Except.ok.inj h
            exact hnone (by simp [Scan.takes, laneHits, hid])
        · next hid =>
            split at h
            · cases h
            · split at h
              · next hacc =>
                  obtain rfl := Except.ok.inj h
                  have hacc' : lane.1.accepts lane.2.conf (bus.info d) = false := by
                    simpa using hacc
                  exact hnone (by simp [Scan.takes, laneHits, hacc'])
              · next hacc =>
                  split at h
                  · cases h
                  · obtain rfl := Except.ok.inj h
                    have hhit : laneHits bus lane d = true := by
                      simp only [laneHits, hscan, not_not.mp hid, decide_true, Bool.and_self,
                        Bool.true_and]
                      simpa using hacc
                    -- a device that is marked comes again only with the first row
                    have hfree : (laneAgain lane || !(es.map Prod.snd).contains d) = true := by
                      rw [Bool.or_eq_true, Bool.not_eq_true']
                      by_contra hno
                      obtain ⟨hagain, hcont⟩ := not_or.mp hno
                      refine hskip ⟨Nat.pos_of_ne_zero fun h₀ => hagain ?_, ?_⟩
                      · exact decide_eq_true h₀
                      · exact hmem.mpr (by simpa using hcont)
                    obtain ⟨henum, hpdev⟩ :=
                      boardEntry_mark hs lane.2 d (bus.info d) (found.length + 1)
                    have htakes : Scan.takes Prod.snd (laneHits bus) laneAgain es lane d = true := by
                      rw [Scan.takes, hhit, hfree]
                      rfl
                    rw [if_pos htakes, Marks, List.map_append, List.map_append, ← hm]
                    simp only [List.map_cons, List.map_nil, henum, hpdev]

theorem foldProbe_marks {lane : BoardSearch D × BoardRow} (hs : lane.1 ∈ boardSearches)
    {ds : List D} (hds : ds.Nodup) (hscan : ∀ d ∈ ds, lane.1.scans (bus.info d) = true)
    (hm : Marks found es)
    (h : ds.foldlM (probeDevice bus enable lane.1 lane.2) found = .ok found') :
    Marks found' (es ++
      (ds.filter (Scan.takes Prod.snd (laneHits bus) laneAgain es lane)).map (lane, ·)) := by
  induction ds generalizing found es with
  | nil =>
      obtain rfl := Except.ok.inj h
      simpa using hm
  | cons d ds ih =>
      obtain ⟨found₁, h₁, h⟩ := bind_ok h
      obtain ⟨hd, hds⟩ := List.nodup_cons.mp hds
      have hm₁ := probeDevice_marks hs (hscan d List.mem_cons_self) hm h₁
      have htail := ih hds (fun d' hd' => hscan d' (List.mem_cons_of_mem _ hd')) hm₁ h
      -- what this turn takes does not matter to the other devices
      have hrest : ds.filter (Scan.takes Prod.snd (laneHits bus) laneAgain (es ++
          if Scan.takes Prod.snd (laneHits bus) laneAgain es lane d then [(lane, d)] else []) lane) =
          ds.filter (Scan.takes Prod.snd (laneHits bus) laneAgain es lane) := by
        refine List.filter_congr fun d' hd' => ?_
        have hne : d' ≠ d := fun heq => hd (heq ▸ hd')
        have hcont : ((es ++ if Scan.takes Prod.snd (laneHits bus) laneAgain es lane d then
            [(lane, d)] else []).map Prod.snd).contains d' = (es.map Prod.snd).contains d' := by
          rw [Bool.eq_iff_iff, List.contains_iff_mem, List.contains_iff_mem]
          split
          · simp [hne]
          · simp
        rw [Scan.takes, hcont, Scan.takes]
      rw [hrest] at htail
      rw [List.filter_cons]
      split
      · next htakes =>
          rw [if_pos htakes, List.append_assoc] at htail
          exact htail
      · next htakes =>
          rw [if_neg htakes, List.append_nil] at htail
          exact htail

theorem probeRow_marks {lane : BoardSearch D × BoardRow} (hs : lane.1 ∈ boardSearches)
    (hm : Marks found es) (h : probeRow bus enable found lane = .ok found') :
    Marks found' (Scan.lane (fun l d => (l, d)) Prod.snd (laneHits bus) laneAgain bus.devices es
      lane) := by
  have hfold := foldProbe_marks hs (bus.nodup.filter _)
    (fun d hd => (List.mem_filter.mp hd).2) hm h
  have hscan : ∀ d ∈ bus.devices, (Scan.takes Prod.snd (laneHits bus) laneAgain es lane d &&
      lane.1.scans (bus.info d)) = Scan.takes Prod.snd (laneHits bus) laneAgain es lane d := by
    intro d _
    unfold Scan.takes laneHits
    cases lane.1.scans (bus.info d) <;> simp
  rw [List.filter_filter, List.filter_congr hscan] at hfold
  exact hfold

/-- **The detection is a scan.** -/
theorem boardProbe_eq_scan (h : sunixPciBoardProbe bus enable = .ok found) :
    Marks found (Scan.scan (fun l d => (l, d)) Prod.snd (laneHits bus) laneAgain bus.devices
      boardLanes) := by
  have hlanes : ∀ {lanes : List (BoardSearch D × BoardRow)} {found found' es},
      (∀ l ∈ lanes, l.1 ∈ boardSearches) → Marks found es →
      lanes.foldlM (probeRow bus enable) found = .ok found' →
      Marks found' (lanes.foldl (Scan.lane (fun l d => (l, d)) Prod.snd (laneHits bus) laneAgain
        bus.devices) es) := by
    intro lanes
    induction lanes with
    | nil =>
        intro found found' es _ hm h
        obtain rfl := Except.ok.inj h
        exact hm
    | cons lane lanes ih =>
        intro found found' es hs hm h
        obtain ⟨found₁, h₁, h⟩ := bind_ok h
        exact ih (fun l hl => hs l (List.mem_cons_of_mem _ hl))
          (probeRow_marks (hs lane List.mem_cons_self) hm h₁) h
  unfold sunixPciBoardProbe at h
  obtain ⟨found₁, h₁, h⟩ := bind_ok h
  split at h
  · cases h
  · obtain rfl := Except.ok.inj h
    refine hlanes (fun l hl => ?_) (show Marks [] [] from rfl) h₁
    obtain ⟨search, hsearch, hl⟩ := List.mem_flatMap.mp hl
    obtain ⟨row, -, rfl⟩ := List.mem_map.mp hl
    exact hsearch

end Detection

/-! ### Cards and rows -/

/-- The row is that of the card: the ids are the device's, and a SUN1999 card answers as the row
says. -/
def PciBoard.Describes (row : PciBoard) (dev : PciDev) : Prop :=
  dev.vendor.setWidth 32 = row.vendor_id ∧ dev.device.setWidth 32 = row.device_id ∧
    dev.subdevice.setWidth 32 = row.sub_device_id ∧
    (dev.vendor.setWidth 32 = VENID_SUN1999 → dev.device.setWidth 32 = DEVID_S_SERIAL →
      dev.answers row = true)

/-- A card of the table. -/
def PciDev.Listed (dev : PciDev) : Prop := ∃ row ∈ snxPciBoardConf, row.Describes dev

/-- The device has the vendor and device id of a search, and its subdevice id stands in a row of
the table; for the golden serial search, in a row without a part number. -/
def PciDev.Candidate (dev : PciDev) : Prop :=
  ∃ row ∈ snxPciBoardConf, dev.subdevice.setWidth 32 = row.sub_device_id ∧
    ((dev.vendor.setWidth 32 = VENID_GOLDEN ∧ dev.device.setWidth 32 = DEVID_G_SERIAL ∧
        row.part_number = 0) ∨
      (dev.vendor.setWidth 32 = VENID_GOLDEN ∧ dev.device.setWidth 32 = DEVID_G_PARALL) ∨
      (dev.vendor.setWidth 32 = VENID_MATRIX ∧ dev.device.setWidth 32 = DEVID_M_SERIAL) ∨
      (dev.vendor.setWidth 32 = VENID_SUN1999 ∧ dev.device.setWidth 32 = DEVID_S_SERIAL))

theorem boardRows_conf : boardRows.map (·.conf) = snxPciBoardConf := by decide

theorem boardRows_spec : ∀ row ∈ boardRows, snxPciBoardConf[row.tablecnt]? = some row.conf ∧
    row.id.subdevice = row.conf.sub_device_id ∧ row.id.driver_data = row.tablecnt := by
  decide

/-- The subdevice id of a golden row stands in no other row without a part number. -/
theorem goldenSub_unique : ∀ r ∈ snxPciBoardConf, r.vendor_id = VENID_GOLDEN →
    ∀ row ∈ snxPciBoardConf, row.part_number = 0 → row.sub_device_id = r.sub_device_id →
      row = r := by
  decide

/-- The subdevice id of a matrix row stands in no other row. -/
theorem matrixSub_unique : ∀ r ∈ snxPciBoardConf, r.device_id = DEVID_M_SERIAL →
    ∀ row ∈ snxPciBoardConf, row.sub_device_id = r.sub_device_id → row = r := by
  decide

theorem parall_unlisted : ∀ r ∈ snxPciBoardConf, r.device_id ≠ DEVID_G_PARALL := by decide

/-- The subdevice id and the three answers fix the row. -/
theorem answers_unique : ∀ r ∈ snxPciBoardConf, ∀ row ∈ snxPciBoardConf,
    row.sub_device_id = r.sub_device_id → row.part_number = r.part_number →
      row.card_type = r.card_type → row.gpio_ch_cnt = r.gpio_ch_cnt → row = r := by
  decide

/-- The subdevice id of the first row stands in no other. -/
theorem testSub_unique : ∀ r ∈ snxPciBoardConf, r.sub_device_id = SUBDEVID_TEST →
    r.vendor_id = VENID_GOLDEN ∧ r.device_id = DEVID_G_SERIAL := by
  decide

theorem firstRow_sub : ∀ row ∈ boardRows, row.tablecnt = 0 → row.id.subdevice = SUBDEVID_TEST := by
  decide

/-- The board of an entry is that of its row. -/
theorem boardEntry_pb_info {search : BoardSearch D} (hs : search ∈ boardSearches) {row : BoardRow}
    (hrow : row ∈ boardRows) (d : D) (dev : PciDev) (n : ℕ) :
    (boardEntry search row d dev n).pb_info = row.conf := by
  have hconf : snxPciBoardConf.getD row.id.driver_data .zero = row.conf := by
    obtain ⟨hget, -, hdata⟩ := boardRows_spec row hrow
    rw [List.getD_eq_getElem?_getD, hdata, hget]
    rfl
  simp only [boardSearches, List.mem_cons, List.not_mem_nil, or_false] at hs
  rcases hs with rfl | rfl | rfl | rfl | rfl <;> exact hconf

/-! ### What the lanes take -/

theorem mem_boardLanes {lane : BoardSearch D × BoardRow} :
    lane ∈ boardLanes ↔ lane.1 ∈ boardSearches ∧ lane.2 ∈ boardRows := by
  obtain ⟨search, row⟩ := lane
  simp [boardLanes]

theorem scans_iff {search : BoardSearch D} {dev : PciDev} : search.scans dev = true ↔
    dev.vendor.setWidth 32 = search.vendor ∧ dev.device.setWidth 32 = search.device := by
  simp [BoardSearch.scans]

theorem laneHits_iff {lane : BoardSearch D × BoardRow} {d : D} : laneHits bus lane d = true ↔
    lane.1.scans (bus.info d) = true ∧
      (bus.info d).subdevice.setWidth 32 = lane.2.id.subdevice ∧
      lane.1.accepts lane.2.conf (bus.info d) = true := by
  simp [laneHits, and_assoc]

theorem conf_mem {row : BoardRow} (h : row ∈ boardRows) : row.conf ∈ snxPciBoardConf :=
  boardRows_conf ▸ List.mem_map_of_mem h

theorem exists_row {r : PciBoard} (h : r ∈ snxPciBoardConf) : ∃ row ∈ boardRows, row.conf = r := by
  rw [← boardRows_conf] at h
  exact List.mem_map.mp h

/-- What a lane takes is a candidate. -/
theorem candidate_of_hits {lane : BoardSearch D × BoardRow} (hlane : lane ∈ boardLanes) {d : D}
    (h : laneHits bus lane d = true) : (bus.info d).Candidate := by
  obtain ⟨hsearch, hrow⟩ := mem_boardLanes.mp hlane
  obtain ⟨hscan, hsub, hacc⟩ := laneHits_iff.mp h
  obtain ⟨hv, hd⟩ := scans_iff.mp hscan
  refine ⟨lane.2.conf, conf_mem hrow, hsub.trans (boardRows_spec _ hrow).2.1, ?_⟩
  obtain ⟨search, row⟩ := lane
  simp only [boardSearches, List.mem_cons, List.not_mem_nil, or_false] at hsearch
  rcases hsearch with rfl | rfl | rfl | rfl | rfl
  · exact .inl ⟨hv, hd, of_decide_eq_true hacc⟩
  · exact .inr (.inl ⟨hv, hd⟩)
  · exact .inr (.inr (.inl ⟨hv, hd⟩))
  · exact .inr (.inr (.inr ⟨hv, hd⟩))
  · exact .inr (.inr (.inr ⟨hv, hd⟩))

/-- And a candidate is taken by some lane. -/
theorem hits_of_candidate {d : D} (h : (bus.info d).Candidate) :
    ∃ lane ∈ boardLanes, laneHits bus lane d = true := by
  obtain ⟨r, hr, hsub, hids⟩ := h
  obtain ⟨row, hrow, rfl⟩ := exists_row hr
  have hsub' := hsub.trans (boardRows_spec _ hrow).2.1.symm
  have hlane : ∀ search ∈ (boardSearches : List (BoardSearch D)),
      (bus.info d).vendor.setWidth 32 = search.vendor →
      (bus.info d).device.setWidth 32 = search.device →
      search.accepts row.conf (bus.info d) = true →
      ∃ lane ∈ boardLanes, laneHits bus lane d = true := fun search hs hv hd hacc =>
    ⟨(search, row), mem_boardLanes.mpr ⟨hs, hrow⟩,
      laneHits_iff.mpr ⟨scans_iff.mpr ⟨hv, hd⟩, hsub', hacc⟩⟩
  rcases hids with ⟨hv, hd, hpart⟩ | ⟨hv, hd⟩ | ⟨hv, hd⟩ | ⟨hv, hd⟩
  · exact hlane searchGoldenSerial (by simp [boardSearches]) hv hd (decide_eq_true hpart)
  · exact hlane searchGoldenParallel (by simp [boardSearches]) hv hd rfl
  · exact hlane searchMatrixSerial (by simp [boardSearches]) hv hd rfl
  · exact hlane searchSun1999Parallel (by simp [boardSearches]) hv hd rfl

/-! ### What is identified -/

/-- The devices in the table are distinct, and each is described by the row of its `board_enum`. -/
def Identified (bus : PciBus D) (found : List (SunixBoard D)) : Prop :=
  (found.map (·.pdev)).Nodup ∧ ∀ sb ∈ found, ∃ d ∈ bus.devices, sb.pdev = some d ∧
    0 ≤ sb.board_enum ∧ ∃ row, snxPciBoardConf[sb.board_enum.toNat]? = some row ∧
      row.Describes (bus.info d)

/-- The later searches do not take a listed card at the first row. -/
theorem not_hits_again {search : BoardSearch D} (hsearch : search ∈ boardSearches.tail)
    {row : BoardRow} (hrow : row ∈ boardRows) (hagain : laneAgain (search, row) = true) {d : D}
    (hlisted : (bus.info d).Listed) : laneHits bus (search, row) d ≠ true := by
  intro h
  obtain ⟨r, hr, hv, hd, hsub, -⟩ := hlisted
  obtain ⟨hscan, hsub', -⟩ := laneHits_iff.mp h
  have htest := firstRow_sub _ hrow (of_decide_eq_true hagain)
  obtain ⟨hgv, hgd⟩ := testSub_unique r hr (hsub.symm.trans (hsub'.trans htest))
  obtain ⟨hv', hd'⟩ := scans_iff.mp hscan
  have hv' : VENID_GOLDEN = search.vendor := hgv.symm.trans (hv.symm.trans hv')
  have hd' : DEVID_G_SERIAL = search.device := hgd.symm.trans (hd.symm.trans hd')
  simp only [boardSearches, List.tail_cons, List.mem_cons, List.not_mem_nil, or_false] at hsearch
  rcases hsearch with rfl | rfl | rfl | rfl
  · have hd' : DEVID_G_SERIAL = DEVID_G_PARALL := hd'
    exact absurd hd' (by decide)
  · have hv' : VENID_GOLDEN = VENID_MATRIX := hv'
    exact absurd hv' (by decide)
  · have hv' : VENID_GOLDEN = VENID_SUN1999 := hv'
    exact absurd hv' (by decide)
  · have hv' : VENID_GOLDEN = VENID_SUN1999 := hv'
    exact absurd hv' (by decide)

/-- A lane that takes a listed card again is the first of all. -/
theorem pre_nil_of_again {pre post : List (BoardSearch D × BoardRow)}
    {lane : BoardSearch D × BoardRow} (h : boardLanes = pre ++ lane :: post) {d : D}
    (hhit : laneHits bus lane d = true) (hagain : laneAgain lane = true)
    (hlisted : (bus.info d).Listed) : pre = [] := by
  have hlanes : (boardLanes : List (BoardSearch D × BoardRow)).tail =
      boardRows.tail.map (searchGoldenSerial, ·) ++
        boardSearches.tail.flatMap fun search => boardRows.map (search, ·) := rfl
  cases pre with
  | nil => rfl
  | cons l pre =>
      have hmem : lane ∈ (boardLanes : List (BoardSearch D × BoardRow)).tail := by
        rw [h]
        simp
      rw [hlanes] at hmem
      rcases List.mem_append.mp hmem with hmem | hmem
      · -- the first search: the other rows have other numbers
        obtain ⟨row, hrow, rfl⟩ := List.mem_map.mp hmem
        have hcnt : ∀ row ∈ boardRows.tail, row.tablecnt ≠ 0 := by decide
        exact absurd (of_decide_eq_true hagain) (hcnt row hrow)
      · obtain ⟨search, hsearch, hmem⟩ := List.mem_flatMap.mp hmem
        obtain ⟨row, hrow, rfl⟩ := List.mem_map.mp hmem
        exact absurd hhit (not_hits_again hsearch hrow hagain hlisted)

/-- A lane is one of the first four searches, or all lanes of these come before it. -/
theorem lane_of_four {pre post : List (BoardSearch D × BoardRow)}
    {lane : BoardSearch D × BoardRow} (h : boardLanes = pre ++ lane :: post) :
    lane.1 ∈ boardSearches.take 4 ∨ lane.1 = searchSun1999Parallel ∧
      ∀ search ∈ boardSearches.take 4, ∀ row ∈ boardRows, (search, row) ∈ pre := by
  have hlanes : (boardLanes : List (BoardSearch D × BoardRow)) =
      ((boardSearches.take 4).flatMap fun search => boardRows.map (search, ·)) ++
        boardRows.map (searchSun1999Parallel, ·) := rfl
  rw [hlanes] at h
  have hall : ∀ search ∈ (boardSearches.take 4 : List (BoardSearch D)), ∀ row ∈ boardRows,
      (search, row) ∈ (boardSearches.take 4).flatMap fun search => boardRows.map (search, ·) :=
    fun search hs row hrow => List.mem_flatMap.mpr ⟨search, hs, List.mem_map_of_mem hrow⟩
  have hlast : ∀ {rest : List (BoardSearch D × BoardRow)},
      boardRows.map (searchSun1999Parallel, ·) = rest ++ lane :: post →
      lane.1 = searchSun1999Parallel := by
    intro rest hrest
    have hmem : lane ∈ boardRows.map ((searchSun1999Parallel : BoardSearch D), ·) := by
      rw [hrest]
      simp
    obtain ⟨row, -, rfl⟩ := List.mem_map.mp hmem
    rfl
  rcases List.append_eq_append_iff.mp h with ⟨rest, hpre, hrest⟩ | ⟨rest, hfour, hrest⟩
  · refine .inr ⟨hlast hrest, fun search hs row hrow => ?_⟩
    rw [hpre]
    exact List.mem_append_left _ (hall search hs row hrow)
  · cases rest with
    | nil =>
        rw [List.append_nil] at hfour
        exact .inr ⟨@hlast [] hrest.symm, hfour ▸ hall⟩
    | cons l rest =>
        obtain ⟨rfl, -⟩ := List.cons.inj hrest
        have hmem : lane ∈ (boardSearches.take 4).flatMap fun search =>
            boardRows.map (search, ·) := by
          rw [hfour]
          simp
        obtain ⟨search, hs, hmem⟩ := List.mem_flatMap.mp hmem
        obtain ⟨row, -, rfl⟩ := List.mem_map.mp hmem
        exact .inl hs

/-- **A listed card is taken at its own row.** -/
theorem describes_of_taken {pre post : List (BoardSearch D × BoardRow)}
    {lane : BoardSearch D × BoardRow} (h : boardLanes = pre ++ lane :: post) {d : D}
    (hhit : laneHits bus lane d = true)
    (hfirst : laneAgain lane = false → ∀ l ∈ pre, laneHits bus l d = false)
    (hlisted : (bus.info d).Listed) : lane.2.conf.Describes (bus.info d) := by
  have hlane : lane ∈ boardLanes := by
    rw [h]
    simp
  obtain ⟨-, hrow⟩ := mem_boardLanes.mp hlane
  obtain ⟨hscan, hsub, hacc⟩ := laneHits_iff.mp hhit
  obtain ⟨hv, hd⟩ := scans_iff.mp hscan
  have hconf := conf_mem hrow
  rw [(boardRows_spec _ hrow).2.1] at hsub
  have hagain : ¬ laneAgain lane = true → laneAgain lane = false := by simp
  obtain ⟨r, hr, hrdesc⟩ := hlisted
  have hlisted : (bus.info d).Listed := ⟨r, hr, hrdesc⟩
  obtain ⟨hrv, hrd, hrsub, hrans⟩ := hrdesc
  have hsame := hsub.symm.trans hrsub
  -- the row that was taken is the one that is listed for the card
  suffices hrow : lane.2.conf = r by
    rw [hrow]
    exact ⟨hrv, hrd, hrsub, hrans⟩
  rcases lane_of_four h with hfour | ⟨hlast, hbefore⟩
  · obtain ⟨search, row⟩ := lane
    simp only [boardSearches, List.take_succ_cons, List.take_zero, List.mem_cons,
      List.not_mem_nil, or_false] at hfour
    rcases hfour with rfl | rfl | rfl | rfl
    · exact goldenSub_unique r hr (hrv.symm.trans hv) _ hconf (of_decide_eq_true hacc) hsame
    · exact absurd (hrd.symm.trans hd) (parall_unlisted r hr)
    · exact matrixSub_unique r hr (hrd.symm.trans hd) _ hconf hsame
    · have hans := hrans hv hd
      have hacc : (bus.info d).answers row.conf = true := hacc
      simp only [PciDev.answers, Bool.and_eq_true, decide_eq_true_eq] at hans hacc
      exact answers_unique r hr _ hconf hsame (hacc.1.1.symm.trans hans.1.1)
        (hacc.1.2.symm.trans hans.1.2) (hacc.2.symm.trans hans.2)
  · -- the search before has asked the card, which answers as its row says
    obtain ⟨row, hrow', rfl⟩ := exists_row hr
    rw [hlast] at hv hd
    have hhit' : laneHits bus (searchSun1999, row) d = true :=
      laneHits_iff.mpr ⟨scans_iff.mpr ⟨hv, hd⟩,
        hrsub.trans (boardRows_spec _ hrow').2.1.symm, hrans hv hd⟩
    have hpre := hbefore searchSun1999 (by simp [boardSearches]) row hrow'
    cases ha : laneAgain lane with
    | false => exact absurd (hhit'.symm.trans (hfirst ha _ hpre)) (by decide)
    | true =>
        rw [pre_nil_of_again h hhit ha hlisted] at hpre
        cases hpre

/-! ### When the cards are identified -/

theorem mark_of_mem (h : Marks found es) {sb : SunixBoard D} (hsb : sb ∈ found) :
    ∃ e ∈ es, sb.board_enum = e.1.2.id.driver_data ∧ sb.pdev = some e.2 := by
  have hmem := List.mem_map_of_mem (f := fun sb : SunixBoard D => (sb.board_enum, sb.pdev)) hsb
  rw [h] at hmem
  obtain ⟨e, he, heq⟩ := List.mem_map.mp hmem
  exact ⟨e, he, (congrArg Prod.fst heq).symm, (congrArg Prod.snd heq).symm⟩

section Detection
variable [DecidableEq D]

theorem identified_of_listed (h : sunixPciBoardProbe bus enable = .ok found)
    (hlisted : ∀ d ∈ bus.devices, (bus.info d).Candidate → (bus.info d).Listed) :
    Identified bus found := by
  have hmarks := boardProbe_eq_scan h
  constructor
  · rw [hmarks.pdev]
    refine List.Nodup.map (fun _ _ => Option.some.inj) ?_
    refine Scan.nodup_scan (fun _ _ => rfl) bus.nodup ?_
    intro pre lane post hlanes hagain d hd hhit l hl
    have hlane : lane ∈ (boardLanes : List (BoardSearch D × BoardRow)) := by
      rw [hlanes]
      simp
    have hfirst := pre_nil_of_again hlanes hhit hagain
      (hlisted d hd (candidate_of_hits hlane hhit))
    rw [hfirst] at hl
    cases hl
  · intro sb hsb
    obtain ⟨e, he, henum, hpdev⟩ := mark_of_mem hmarks hsb
    obtain ⟨pre, lane, post, hlanes, d, hd, rfl, hhit, hfirst⟩ :=
      Scan.mem_scan (fun _ _ => rfl) he
    have hlane : lane ∈ (boardLanes : List (BoardSearch D × BoardRow)) := by
      rw [hlanes]
      simp
    obtain ⟨hget, -, hdata⟩ := boardRows_spec _ (mem_boardLanes.mp hlane).2
    refine ⟨d, hd, hpdev, by omega, lane.2.conf, ?_, describes_of_taken hlanes hhit hfirst
      (hlisted d hd (candidate_of_hits hlane hhit))⟩
    rw [henum]
    dsimp only
    rw [hdata]
    exact hget

theorem listed_of_identified (h : sunixPciBoardProbe bus enable = .ok found)
    (hid : Identified bus found) {d : D} (hd : d ∈ bus.devices)
    (hcand : (bus.info d).Candidate) : (bus.info d).Listed := by
  have hmarks := boardProbe_eq_scan h
  obtain ⟨lane, hlane, hhit⟩ := hits_of_candidate hcand
  have hkey : d ∈ (Scan.scan (fun l d => (l, d)) Prod.snd (laneHits bus) laneAgain bus.devices
      boardLanes).map Prod.snd := Scan.key_mem_scan (fun _ _ => rfl) hlane hd hhit
  have hmem : some d ∈ found.map (·.pdev) := by
    rw [hmarks.pdev]
    exact List.mem_map_of_mem hkey
  obtain ⟨sb, hsb, hpdev⟩ := List.mem_map.mp hmem
  obtain ⟨d', -, hpdev', -, row, hrow, hdesc⟩ := hid.2 sb hsb
  obtain rfl := Option.some.inj (hpdev'.symm.trans hpdev)
  exact ⟨row, List.mem_of_getElem? hrow, hdesc⟩

/-- **A detection identifies every card just when each device that a search takes up is a card of
the table**: only the fourth search asks a card what it is, and the three others that make no test
take whatever has a subdevice id of the table. -/
theorem boardProbe_identifies_iff (h : sunixPciBoardProbe bus enable = .ok found) :
    Identified bus found ↔
      ∀ d ∈ bus.devices, (bus.info d).Candidate → (bus.info d).Listed :=
  ⟨fun hid _ hd => listed_of_identified h hid hd, identified_of_listed h⟩

end Detection

/-! ### Cards that are and are not identified -/

/-- A bus with one device. -/
def oneCard (dev : PciDev) : PciBus Unit := ⟨[()], List.nodup_singleton (), fun _ => dev⟩

/-- A device with its ids, and its part number. -/
def PciDev.ofIds (vendor device subdevice : BitVec 16) (part : UChar) : PciDev where
  vendor := vendor
  device := device
  subdevice := subdevice
  bus_number := 1
  devfn := 0
  resource _ := 0
  irq := 10
  bar3_Byte5 := part
  bar3_Byte6 := 0
  bar3_Byte7 := 0

/-- What a detection has recorded. -/
def recorded (r : Except ℤ (List (SunixBoard D))) : Except ℤ (List (ℤ × Option D)) :=
  r.map (List.map fun sb => (sb.board_enum, sb.pdev))

theorem exists_of_recorded {r : Except ℤ (List (SunixBoard D))} {ms : List (ℤ × Option D)}
    (h : recorded r = .ok ms) :
    ∃ found, r = .ok found ∧ found.map (fun sb => (sb.board_enum, sb.pdev)) = ms := by
  cases r with
  | error e => cases h
  | ok found => exact ⟨found, rfl, Except.ok.inj h⟩

theorem boardProbe_identifies_4037A :
    ∃ found, sunixPciBoardProbe (oneCard (.ofIds 0x1409 0x7168 0x4037 0)) (fun _ => 0) =
      .ok found ∧ Identified (oneCard (.ofIds 0x1409 0x7168 0x4037 0)) found := by
  have hrec : recorded (sunixPciBoardProbe (oneCard (.ofIds 0x1409 0x7168 0x4037 0))
      fun _ => 0) = .ok [(3, some ())] := by
    decide +kernel
  obtain ⟨found, h, -⟩ := exists_of_recorded hrec
  refine ⟨found, h, (boardProbe_identifies_iff h).mpr fun _ _ _ => ?_⟩
  refine ⟨snxPciBoardConf[3], List.getElem_mem _, ?_⟩
  refine ⟨rfl, rfl, rfl, fun hv => ?_⟩
  have hv : (0x1409 : U32) = VENID_SUN1999 := hv
  exact absurd hv (by decide)

/-- The detection succeeds with one device that has a subdevice id, and does not identify it. -/
def Misidentifies (dev : PciDev) : Prop :=
  dev.subdevice ≠ 0 ∧ ∃ found, sunixPciBoardProbe (oneCard dev) (fun _ => 0) = .ok found ∧
    ¬ Identified (oneCard dev) found

/-- A SUN1999 card with subdevice id 2 and a part number that no row has is recorded as a golden
4036A3V; one with the subdevice id of the first row is recorded twice. -/
theorem boardProbe_misidentifies : Misidentifies (.ofIds 0x1FD4 0x1999 0x0002 0x12) ∧
    Misidentifies (.ofIds 0x1FD4 0x1999 0x9999 0) := by
  constructor
  · have hrec : recorded (sunixPciBoardProbe (oneCard (.ofIds 0x1FD4 0x1999 0x0002 0x12))
        fun _ => 0) = .ok [(5, some ())] := by
      decide +kernel
    obtain ⟨found, h, hmarks⟩ := exists_of_recorded hrec
    refine ⟨by decide, found, h, fun hid => ?_⟩
    obtain ⟨sb, rfl⟩ : ∃ sb, found = [sb] := by
      rw [← List.length_eq_one_iff, ← List.length_map (f := fun sb => (sb.board_enum, sb.pdev)),
        hmarks]
      rfl
    have henum : sb.board_enum = 5 := congrArg Prod.fst (List.cons.inj hmarks).1
    obtain ⟨_, -, -, -, row, hrow, hv, -⟩ := hid.2 sb (List.mem_singleton_self sb)
    rw [henum] at hrow
    have hrow : snxPciBoardConf[5] = row := Option.some.inj hrow
    rw [← hrow] at hv
    have hv : (0x1FD4 : U32) = VENID_GOLDEN := hv
    exact absurd hv (by decide)
  · have hrec : recorded (sunixPciBoardProbe (oneCard (.ofIds 0x1FD4 0x1999 0x9999 0))
        fun _ => 0) = .ok [(0, some ()), (0, some ())] := by
      decide +kernel
    obtain ⟨found, h, hmarks⟩ := exists_of_recorded hrec
    refine ⟨by decide, found, h, fun hid => ?_⟩
    have hpdev : found.map (·.pdev) = [some (), some ()] := by
      have hsnd := congrArg (List.map Prod.snd) hmarks
      rw [List.map_map] at hsnd
      exact hsnd
    rw [Identified, hpdev] at hid
    exact absurd hid.1 (by decide)

end SunixPci.Board
