import BoardDiag.Driver.Confinement
import BoardDiag.Driver.SpiNor
import BoardDiag.Suite.EepromContents
import BoardDiag.Suite.NorArea

/-!
# Boards with more on them

What has been proved about a driver is about a board that has nothing else on it.  A real board
has an I2C bus and a flash and more, and each driver sees its own part of it.  If a driver does
to its part what it does to a board with nothing else, then so does every program that uses it.
For the I2C utilities and the EEPROM test this has been said; the single transfers and the NOR
flash test are gone through here.
-/

namespace BoardDiag

open Machine

variable {D E : Type}

/-- What the first driver does to a part of the board is what the second does. -/
structure I2cBusDriver.Through (view : D → E) (io : I2cBusDriver D) (io' : I2cBusDriver E) : Prop
    extends io.toI2cDriver.Through view io'.toI2cDriver where
  getSpeed : ∀ bus d, Prod.map id view (io.dmI2cGetBusSpeed bus d) =
    io'.dmI2cGetBusSpeed bus (view d)
  setSpeed : ∀ bus speed d, Prod.map id view (io.dmI2cSetBusSpeed bus speed d) =
    io'.dmI2cSetBusSpeed bus speed (view d)
  probe : ∀ bus chip_addr d, Prod.map id view (io.dmI2cProbe bus chip_addr d) =
    io'.dmI2cProbe bus chip_addr (view d)

section Programs

variable {view : D → E}

/-! ## I2C -/

section I2c

variable {io : I2cBusDriver D} {io' : I2cBusDriver E} (h : io.Through view io')

include h

/-- Where the second driver is confined, the first is. -/
theorem I2cBusDriver.Through.within {r : E → E → Prop} (hio' : io'.Within r) :
    io.Within fun d d' => r (view d) (view d') where
  writel value addr d := by
    rw [h.writel]
    exact hio'.writel value addr (view d)
  lookup seq d := by
    have hd := hio'.lookup seq (view d)
    rwa [← h.lookup] at hd
  getSpeed bus d := by
    have hd := hio'.getSpeed bus (view d)
    rwa [← h.getSpeed] at hd
  setSpeed bus speed d := by
    have hd := hio'.setSpeed bus speed (view d)
    rwa [← h.setSpeed] at hd
  probe bus chip_addr d := by
    have hd := hio'.probe bus chip_addr (view d)
    rwa [← h.probe] at hd

/-- **A transfer** does to the part of the board what it does without the rest. -/
theorem through_make (t : Transfer) :
    Through (Fixture.part view) (t.make io.toI2cDriver) (t.make io'.toI2cDriver) := by
  cases t with
  | write bus_num chip reg len bytes _ =>
      exact .bind (through_i2cWrite h.toThrough _ _ _ _ _) fun _ => .pure _
  | read bus_num chip reg len dlen =>
      refine .bind (through_i2cRead h.toThrough _ _ _ _ _) fun answer => ?_
      obtain ⟨status, data⟩ := answer
      cases status <;> cases data <;> exact .pure _

theorem Transfer.Within.of_through {r : E → E → Prop} {t : Transfer}
    (ht : t.Within io'.toI2cDriver r) :
    t.Within io.toI2cDriver fun d d' => r (view d) (view d') :=
  (through_make h t).confined ht

end I2c

/-! ## Flash -/

section Flash

variable {io : SpiFlashDriver D} {io' : SpiFlashDriver E} (h : io.Through view io')

include h

theorem through_spiPinMuxCfg :
    Through (Fixture.part view) (spiPinMuxCfg io) (spiPinMuxCfg io') := by
  have hwritel : ∀ value addr : BitVec 32, Through (Fixture.part view)
      (drive fun d => ((), io.writel value addr d))
      (drive fun d => ((), io'.writel value addr d)) :=
    fun value addr => through_drive fun d => congrArg (Prod.mk ()) (h.writel value addr d)
  exact .bind (hwritel _ _) fun _ => .bind (hwritel _ _) fun _ => .bind (hwritel _ _) fun _ =>
    hwritel _ _

theorem through_spiNorInit (bus cs : BitVec 32) :
    Through (Fixture.part view) (spiNorInit io bus cs) (spiNorInit io' bus cs) := by
  refine .bind (through_drive fun d => h.find bus cs d) fun _ => .bind ?_ fun _ => ?_
  · refine .ite (.pure _) (.bind (through_deref _) fun new => ?_)
    exact .bind (through_drive fun d => h.remove new d) fun _ => .pure _
  · refine .bind (.modify fun _ => rfl) fun _ => ?_
    refine .bind (through_drive fun d => h.probe bus cs d) fun _ => .ite (.pure _) ?_
    exact .bind (.modify fun _ => rfl) fun _ => .pure _

/-- **The NOR flash test** does. -/
theorem through_norFlashTest (testId : BitVec 32) (arg : Option ANorFlashTest) :
    Through (Fixture.part view) (norFlashTest io testId arg) (norFlashTest io' testId arg) := by
  cases arg with
  | none => exact through_unconfigured _ _
  | some a =>
      have hgivenUp : Through (Fixture.part view)
          (do
            reportEvent testId .busInit [a.spi_bus_no.setWidth 32]
            spiPinMuxCfg io
            return .fail : TestProg D TestResultTypes)
          (do
            reportEvent testId .busInit [a.spi_bus_no.setWidth 32]
            spiPinMuxCfg io'
            return .fail) :=
        .bind (.modify fun _ => rfl) fun _ => .bind (through_spiPinMuxCfg h) fun _ => .pure _
      refine .ite (.pure _) (.bind (through_spiPinMuxCfg h) fun _ => ?_)
      refine .bind (through_spiNorInit h _ _) fun _ => .ite hgivenUp ?_
      exact .bind (through_spiFlashEraseReadWrite h _ _) fun _ => .ite hgivenUp (.pure _)

end Flash

end Programs

/-! ## A board with two parts -/

/-- An I2C driver on a board with another part. -/
def I2cBusDriver.onFst (io : I2cBusDriver D) : I2cBusDriver (D × E) where
  writel value addr d := (io.writel value addr d.1, d.2)
  uclassGetDeviceBySeq seq d :=
    ((io.uclassGetDeviceBySeq seq d.1).1, (io.uclassGetDeviceBySeq seq d.1).2, d.2)
  i2cGetChip bus chip_addr offset_len d :=
    ((io.i2cGetChip bus chip_addr offset_len d.1).1,
      (io.i2cGetChip bus chip_addr offset_len d.1).2, d.2)
  i2cSetChipOffsetLen dev offset_len d :=
    ((io.i2cSetChipOffsetLen dev offset_len d.1).1,
      (io.i2cSetChipOffsetLen dev offset_len d.1).2, d.2)
  setWrAddress dev d := (io.setWrAddress dev d.1, d.2)
  dmI2cWrite dev offset buffer d :=
    ((io.dmI2cWrite dev offset buffer d.1).1, (io.dmI2cWrite dev offset buffer d.1).2, d.2)
  dmI2cRead dev offset len d :=
    ((io.dmI2cRead dev offset len d.1).1, (io.dmI2cRead dev offset len d.1).2, d.2)
  dmI2cGetBusSpeed bus d := ((io.dmI2cGetBusSpeed bus d.1).1, (io.dmI2cGetBusSpeed bus d.1).2, d.2)
  dmI2cSetBusSpeed bus speed d :=
    ((io.dmI2cSetBusSpeed bus speed d.1).1, (io.dmI2cSetBusSpeed bus speed d.1).2, d.2)
  dmI2cProbe bus chip_addr d :=
    ((io.dmI2cProbe bus chip_addr d.1).1, (io.dmI2cProbe bus chip_addr d.1).2, d.2)

/-- A flash driver on a board with another part. -/
def SpiFlashDriver.onSnd (io : SpiFlashDriver E) : SpiFlashDriver (D × E) where
  writel value addr d := (d.1, io.writel value addr d.2)
  spiFindBusAndCs bus cs d :=
    ((io.spiFindBusAndCs bus cs d.2).1, d.1, (io.spiFindBusAndCs bus cs d.2).2)
  deviceRemove dev d := ((io.deviceRemove dev d.2).1, d.1, (io.deviceRemove dev d.2).2)
  spiFlashProbeBusCs bus cs d :=
    ((io.spiFlashProbeBusCs bus cs d.2).1, d.1, (io.spiFlashProbeBusCs bus cs d.2).2)
  size flash d := io.size flash d.2
  spiFlashRead flash offset len d :=
    ((io.spiFlashRead flash offset len d.2).1, d.1, (io.spiFlashRead flash offset len d.2).2)
  spiFlashErase flash offset len d :=
    ((io.spiFlashErase flash offset len d.2).1, d.1, (io.spiFlashErase flash offset len d.2).2)
  spiFlashWrite flash offset buf d :=
    ((io.spiFlashWrite flash offset buf d.2).1, d.1, (io.spiFlashWrite flash offset buf d.2).2)

theorem I2cBusDriver.through_onFst (io : I2cBusDriver D) :
    (io.onFst : I2cBusDriver (D × E)).Through Prod.fst io :=
  ⟨⟨fun _ _ _ => rfl, fun _ _ => rfl, fun _ _ _ _ => rfl, fun _ _ _ => rfl, fun _ _ => rfl,
    fun _ _ _ _ => rfl, fun _ _ _ _ => rfl⟩, fun _ _ => rfl, fun _ _ _ => rfl, fun _ _ _ => rfl⟩

theorem SpiFlashDriver.through_onSnd (io : SpiFlashDriver E) :
    (io.onSnd : SpiFlashDriver (D × E)).Through Prod.snd io :=
  ⟨fun _ _ _ => rfl, fun _ _ _ => rfl, fun _ _ => rfl, fun _ _ _ => rfl, fun _ _ => rfl,
    fun _ _ _ _ => rfl, fun _ _ _ _ => rfl, fun _ _ _ _ => rfl⟩

/-- What is done to a flash is not done to the other part of the board. -/
theorem SpiFlashDriver.within_onSnd (io : SpiFlashDriver E) :
    (io.onSnd : SpiFlashDriver (D × E)).Within fun d d' => d'.1 = d.1 :=
  ⟨fun _ _ _ => rfl, fun _ _ _ => rfl, fun _ _ => rfl, fun _ _ _ => rfl, fun _ _ _ _ => rfl,
    fun _ _ _ _ => rfl, fun _ _ _ _ => rfl⟩

theorem I2cBusDriver.within_onFst (io : I2cBusDriver D) :
    (io.onFst : I2cBusDriver (D × E)).Within fun d d' => d'.2 = d.2 :=
  ⟨fun _ _ _ => rfl, fun _ _ => rfl, fun _ _ => rfl, fun _ _ _ => rfl, fun _ _ _ => rfl⟩

theorem I2cBusDriver.transfersWithin_onFst (io : I2cBusDriver D) :
    (io.onFst : I2cBusDriver (D × E)).TransfersWithin fun d d' => d'.2 = d.2 :=
  ⟨fun _ _ _ _ => rfl, fun _ _ _ => rfl, fun _ _ => rfl, fun _ _ _ _ => rfl,
    fun _ _ _ _ => rfl⟩

/-- A board on which nothing but the I2C buses and the flash does anything. -/
def Drivers.bare (i2c : I2cBusDriver D) (flash : SpiFlashDriver D) : Drivers D where
  i2c := i2c
  flash := flash
  memory := ⟨fun _ _ d => d, fun _ d => (0, d), fun d => d⟩
  registers := ⟨fun _ _ d => d, fun _ d => (0, d)⟩
  phy := ⟨fun _ _ _ d => (none, d), fun _ _ _ _ d => d, fun d => d⟩
  mmc := ⟨fun _ d => (none, d), fun _ _ => none, fun _ d => d, fun _ d => (0, d), fun _ _ => false⟩
  net := ⟨fun _ => 0, fun _ d => (0, d)⟩

theorem Drivers.restWithin_bare (i2c : I2cBusDriver D) (flash : SpiFlashDriver D)
    {r : D → D → Prop} (hrefl : ∀ d, r d d) : (Drivers.bare i2c flash).RestWithin r where
  memory := ⟨fun _ _ d => hrefl d, fun _ d => hrefl d, fun d => hrefl d⟩
  registers := ⟨fun _ _ d => hrefl d, fun _ d => hrefl d⟩
  phy := ⟨fun _ _ _ d => hrefl d, fun _ _ _ _ d => hrefl d, fun d => hrefl d⟩
  mmc := ⟨fun _ d => hrefl d, fun _ d => hrefl d, fun _ d => hrefl d⟩
  net := fun _ d => hrefl d

end BoardDiag
