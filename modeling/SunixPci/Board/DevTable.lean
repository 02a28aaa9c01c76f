import SunixPci.Board.Types

/-!
# Board — DevTable

The two tables that the detection works with: `snx_pci_board_conf` and `sunix_pci_board_id`, row by
row.  The names of the boards and what only describes a port (its type, the lengths of its windows,
the interrupt mask) are left out.
-/

namespace SunixPci.Board

def SUBDEVID_TEST : U32 := 0x9999
def SUBDEVID_4027A : U32 := 0x4027
def SUBDEVID_4027D : U32 := 0x5027
def SUBDEVID_4037A : U32 := 0x4037
def SUBDEVID_4037D : U32 := 0x5037
def SUBDEVID_4036A3V : U32 := 0x0002
def SUBDEVID_4056A : U32 := 0x4056
def SUBDEVID_4056D : U32 := 0x6056
def SUBDEVID_4056DW : U32 := 0x4055
def SUBDEVID_4066A : U32 := 0x4066
def SUBDEVID_4066R : U32 := 0x5066
def SUBDEVID_8139 : U32 := 0x8138
def SUBDEVID_8139S : U32 := 0x9138
def SUBDEVID_8159 : U32 := 0x8156
def SUBDEVID_8159S : U32 := 0x9156
def SUBDEVID_8169 : U32 := 0x8166
def SUBDEVID_8169S : U32 := 0x9166
def SUBDEVID_4079A : U32 := 0x5079
def SUBDEVID_4089A : U32 := 0x4089
def SUBDEVID_4096A : U32 := 0x4096
def SUBDEVID_P1002 : U32 := 0x1002
def SUBDEVID_P1004 : U32 := 0x1004
def SUBDEVID_P1008 : U32 := 0x1008
def SUBDEVID_P1016 : U32 := 0x1016
def SUBDEVID_P2002 : U32 := 0x2002
def SUBDEVID_P2004 : U32 := 0x2004
def SUBDEVID_P2008 : U32 := 0x2008
def SUBDEVID_P3002 : U32 := 0x3002
def SUBDEVID_P3004 : U32 := 0x3004
def SUBDEVID_P3008 : U32 := 0x3008
def SUBDEVID_5027A : U32 := 0x0001
def SUBDEVID_5037A : U32 := 0x0002
def SUBDEVID_5056A : U32 := 0x0004
def SUBDEVID_5066A : U32 := 0x0008
def SUBDEVID_5016A : U32 := 0x0010
def SUBDEVID_5069A : U32 := 0x0101
def SUBDEVID_5079A : U32 := 0x0102
def SUBDEVID_5099A : U32 := 0x0104
def SUBDEVID_5008A : U32 := 0x0100
def SUBDEVID_P2102 : U32 := 0x0002
def SUBDEVID_P2104 : U32 := 0x0004
def SUBDEVID_P2108 : U32 := 0x0008
def SUBDEVID_P2116 : U32 := 0x0010
def SUBDEVID_P3104 : U32 := 0x0084
def SUBDEVID_P3108 : U32 := 0x0088
def SUBDEVID_CASH_2S : U32 := 0x0002
def SUBDEVID_CASH_4S : U32 := 0x0004
def SUBDEVID_DIO0802 : U32 := 0x0002
def SUBDEVID_DIO1604 : U32 := 0x0004
def SUBDEVID_DIO3204 : U32 := 0x0004

/-- `snx_pci_board_conf`. -/
def snxPciBoardConf : List PciBoard := [
  ⟨VENID_GOLDEN, DEVID_G_SERIAL, SUBVENID_GOLDEN, SUBDEVID_TEST, 0, 0, 0, 0x00,
    BOARDFLAG_NONE, PART_NUMBER_NONE, CARD_TYPE_UART_ONLY, GPIO_NONE, [
      ⟨-1, 0, -1, 0, SUNNONE_HWID⟩]⟩,
  ⟨VENID_GOLDEN, DEVID_G_SERIAL, SUBVENID_GOLDEN, SUBDEVID_4027A, 1, 0, 0, 0x1C,
    BOARDFLAG_NONE, PART_NUMBER_NONE, CARD_TYPE_UART_ONLY, GPIO_NONE, [
      ⟨0, 0, -1, 0, SUN1889_HWID⟩]⟩,
  ⟨VENID_GOLDEN, DEVID_G_SERIAL, SUBVENID_GOLDEN, SUBDEVID_4027D, 1, 0, 0, 0x00,
    BOARDFLAG_REMAP, PART_NUMBER_NONE, CARD_TYPE_UART_ONLY, GPIO_NONE, [
      ⟨2, 0, -1, 0, SUN1699_HWID⟩]⟩,
  ⟨VENID_GOLDEN, DEVID_G_SERIAL, SUBVENID_GOLDEN, SUBDEVID_4037A, 2, 0, 0, 0x1C,
    BOARDFLAG_NONE, PART_NUMBER_NONE, CARD_TYPE_UART_ONLY, GPIO_NONE, [
      ⟨0, 0, -1, 0, SUN1889_HWID⟩, ⟨0, 8, -1, 0, SUN1889_HWID⟩]⟩,
  ⟨VENID_GOLDEN, DEVID_G_SERIAL, SUBVENID_GOLDEN, SUBDEVID_4037D, 2, 0, 0, 0x00,
    BOARDFLAG_REMAP, PART_NUMBER_NONE, CARD_TYPE_UART_ONLY, GPIO_NONE, [
      ⟨2, 0, -1, 0, SUN1699_HWID⟩, ⟨3, 0, -1, 0, SUN1699_HWID⟩]⟩,
  ⟨VENID_GOLDEN, DEVID_G_SERIAL, SUBVENID_GOLDEN, SUBDEVID_4036A3V, 2, 0, 0, 0x1C,
    BOARDFLAG_NONE, PART_NUMBER_NONE, CARD_TYPE_UART_ONLY, GPIO_NONE, [
      ⟨0, 0, -1, 0, SUN1889_HWID⟩, ⟨0, 8, -1, 0, SUN1889_HWID⟩]⟩,
  ⟨VENID_GOLDEN, DEVID_G_SERIAL, SUBVENID_GOLDEN, SUBDEVID_4056A, 4, 0, 0, 0x1C,
    BOARDFLAG_NONE, PART_NUMBER_NONE, CARD_TYPE_UART_ONLY, GPIO_NONE, [
      ⟨0, 0, -1, 0, SUN1889_HWID⟩, ⟨0, 8, -1, 0, SUN1889_HWID⟩, ⟨1, 0, -1, 0, SUN1699_HWID⟩,
      ⟨1, 8, -1, 0, SUN1699_HWID⟩]⟩,
  ⟨VENID_GOLDEN, DEVID_G_SERIAL, SUBVENID_GOLDEN, SUBDEVID_4056D, 4, 0, 0, 0x00,
    BOARDFLAG_REMAP, PART_NUMBER_NONE, CARD_TYPE_UART_ONLY, GPIO_NONE, [
      ⟨2, 0, -1, 0, SUN1699_HWID⟩, ⟨3, 0, -1, 0, SUN1699_HWID⟩, ⟨4, 0, -1, 0, SUN1699_HWID⟩,
      ⟨5, 0, -1, 0, SUN1699_HWID⟩]⟩,
  ⟨VENID_GOLDEN, DEVID_G_SERIAL, SUBVENID_GOLDEN, SUBDEVID_4056DW, 4, 0, 0, 0x1C,
    BOARDFLAG_NONE, PART_NUMBER_NONE, CARD_TYPE_UART_ONLY, GPIO_NONE, [
      ⟨0, 0, -1, 0, SUN1889_HWID⟩, ⟨0, 8, -1, 0, SUN1889_HWID⟩, ⟨1, 0, -1, 0, SUN1699_HWID⟩,
      ⟨1, 8, -1, 0, SUN1699_HWID⟩]⟩,
  ⟨VENID_GOLDEN, DEVID_G_SERIAL, SUBVENID_GOLDEN, SUBDEVID_4066A, 8, 0, 0, 0x1C,
    BOARDFLAG_NONE, PART_NUMBER_NONE, CARD_TYPE_UART_ONLY, GPIO_NONE, [
      ⟨0, 0, -1, 0, SUN1889_HWID⟩, ⟨0, 8, -1, 0, SUN1889_HWID⟩, ⟨1, 0, -1, 0, SUN1699_HWID⟩,
      ⟨1, 8, -1, 0, SUN1699_HWID⟩, ⟨2, 0, -1, 0, SUN1699_HWID⟩, ⟨3, 0, -1, 0, SUN1699_HWID⟩,
      ⟨4, 0, -1, 0, SUN1699_HWID⟩, ⟨5, 0, -1, 0, SUN1699_HWID⟩]⟩,
  ⟨VENID_GOLDEN, DEVID_G_SERIAL, SUBVENID_GOLDEN, SUBDEVID_4066R, 8, 0, 0, 0x1C,
    BOARDFLAG_NONE, PART_NUMBER_NONE, CARD_TYPE_UART_ONLY, GPIO_NONE, [
      ⟨0, 0, -1, 0, SUN1889_HWID⟩, ⟨0, 8, -1, 0, SUN1889_HWID⟩, ⟨1, 0, -1, 0, SUN1699_HWID⟩,
      ⟨1, 8, -1, 0, SUN1699_HWID⟩, ⟨2, 0, -1, 0, SUN1699_HWID⟩, ⟨3, 0, -1, 0, SUN1699_HWID⟩,
      ⟨4, 0, -1, 0, SUN1699_HWID⟩, ⟨5, 0, -1, 0, SUN1699_HWID⟩]⟩,
  ⟨VENID_GOLDEN, DEVID_G_SERIAL, SUBVENID_GOLDEN, SUBDEVID_8139, 2, 0, 0, 0x1C,
    BOARDFLAG_NONE, PART_NUMBER_NONE, CARD_TYPE_UART_ONLY, GPIO_NONE, [
      ⟨0, 0, -1, 0, SUN1889_HWID⟩, ⟨0, 8, -1, 0, SUN1889_HWID⟩]⟩,
  ⟨VENID_GOLDEN, DEVID_G_SERIAL, SUBVENID_GOLDEN, SUBDEVID_8139S, 2, 0, 0, 0x1C,
    BOARDFLAG_NONE, PART_NUMBER_NONE, CARD_TYPE_UART_ONLY, GPIO_NONE, [
      ⟨0, 0, -1, 0, SUN1889_HWID⟩, ⟨0, 8, -1, 0, SUN1889_HWID⟩]⟩,
  ⟨VENID_GOLDEN, DEVID_G_SERIAL, SUBVENID_GOLDEN, SUBDEVID_8159, 4, 0, 0, 0x1C,
    BOARDFLAG_NONE, PART_NUMBER_NONE, CARD_TYPE_UART_ONLY, GPIO_NONE, [
      ⟨0, 0, -1, 0, SUN1889_HWID⟩, ⟨0, 8, -1, 0, SUN1889_HWID⟩, ⟨1, 0, -1, 0, SUN1699_HWID⟩,
      ⟨1, 8, -1, 0, SUN1699_HWID⟩]⟩,
  ⟨VENID_GOLDEN, DEVID_G_SERIAL, SUBVENID_GOLDEN, SUBDEVID_8159S, 4, 0, 0, 0x1C,
    BOARDFLAG_NONE, PART_NUMBER_NONE, CARD_TYPE_UART_ONLY, GPIO_NONE, [
      ⟨0, 0, -1, 0, SUN1889_HWID⟩, ⟨0, 8, -1, 0, SUN1889_HWID⟩, ⟨1, 0, -1, 0, SUN1699_HWID⟩,
      ⟨1, 8, -1, 0, SUN1699_HWID⟩]⟩,
  ⟨VENID_GOLDEN, DEVID_G_SERIAL, SUBVENID_GOLDEN, SUBDEVID_8169, 8, 0, 0, 0x1C,
    BOARDFLAG_NONE, PART_NUMBER_NONE, CARD_TYPE_UART_ONLY, GPIO_NONE, [
      ⟨0, 0, -1, 0, SUN1889_HWID⟩, ⟨0, 8, -1, 0, SUN1889_HWID⟩, ⟨1, 0, -1, 0, SUN1699_HWID⟩,
      ⟨1, 8, -1, 0, SUN1699_HWID⟩, ⟨2, 0, -1, 0, SUN1699_HWID⟩, ⟨3, 0, -1, 0, SUN1699_HWID⟩,
      ⟨4, 0, -1, 0, SUN1699_HWID⟩, ⟨5, 0, -1, 0, SUN1699_HWID⟩]⟩,
  ⟨VENID_GOLDEN, DEVID_G_SERIAL, SUBVENID_GOLDEN, SUBDEVID_8169S, 8, 0, 0, 0x1C,
    BOARDFLAG_NONE, PART_NUMBER_NONE, CARD_TYPE_UART_ONLY, GPIO_NONE, [
      ⟨0, 0, -1, 0, SUN1889_HWID⟩, ⟨0, 8, -1, 0, SUN1889_HWID⟩, ⟨1, 0, -1, 0, SUN1699_HWID⟩,
      ⟨1, 8, -1, 0, SUN1699_HWID⟩, ⟨2, 0, -1, 0, SUN1699_HWID⟩, ⟨3, 0, -1, 0, SUN1699_HWID⟩,
      ⟨4, 0, -1, 0, SUN1699_HWID⟩, ⟨5, 0, -1, 0, SUN1699_HWID⟩]⟩,
  ⟨VENID_GOLDEN, DEVID_G_SERIAL, SUBVENID_GOLDEN, SUBDEVID_4079A, 2, 1, 0, 0x1C,
    BOARDFLAG_NONE, PART_NUMBER_NONE, CARD_TYPE_UART_ONLY, GPIO_NONE, [
      ⟨0, 0, -1, 0, SUN1889_HWID⟩, ⟨0, 8, -1, 0, SUN1889_HWID⟩, ⟨2, 0, 3, 0, SUN1689_HWID⟩]⟩,
  ⟨VENID_GOLDEN, DEVID_G_SERIAL, SUBVENID_GOLDEN, SUBDEVID_4089A, 2, 2, 0, 0x1C,
    BOARDFLAG_NONE, PART_NUMBER_NONE, CARD_TYPE_UART_ONLY, GPIO_NONE, [
      ⟨0, 0, -1, 0, SUN1889_HWID⟩, ⟨0, 8, -1, 0, SUN1889_HWID⟩, ⟨2, 0, 3, 0, SUN1689_HWID⟩,
      ⟨4, 0, 5, 0, SUN1689_HWID⟩]⟩,
  ⟨VENID_GOLDEN, DEVID_G_SERIAL, SUBVENID_GOLDEN, SUBDEVID_4096A, 4, 2, 0, 0x1C,
    BOARDFLAG_NONE, PART_NUMBER_NONE, CARD_TYPE_UART_ONLY, GPIO_NONE, [
      ⟨0, 0, -1, 0, SUN1889_HWID⟩, ⟨0, 8, -1, 0, SUN1889_HWID⟩, ⟨1, 0, -1, 0, SUN1699_HWID⟩,
      ⟨1, 8, -1, 0, SUN1699_HWID⟩, ⟨2, 0, 3, 0, SUN1689_HWID⟩, ⟨4, 0, 5, 0, SUN1689_HWID⟩]⟩,
  ⟨VENID_MATRIX, DEVID_M_SERIAL, SUBVENID_MATRIX, SUBDEVID_P1002, 2, 0, 1, 0x00,
    BOARDFLAG_NONE, PART_NUMBER_NONE, CARD_TYPE_UART_ONLY, GPIO_NONE, [
      ⟨0, 0, -1, 0, SUNMATX_HWID⟩, ⟨0, 8, -1, 0, SUNMATX_HWID⟩]⟩,
  ⟨VENID_MATRIX, DEVID_M_SERIAL, SUBVENID_MATRIX, SUBDEVID_P1004, 4, 0, 1, 0x00,
    BOARDFLAG_NONE, PART_NUMBER_NONE, CARD_TYPE_UART_ONLY, GPIO_NONE, [
      ⟨0, 0, -1, 0, SUNMATX_HWID⟩, ⟨0, 8, -1, 0, SUNMATX_HWID⟩, ⟨0, 16, -1, 0, SUNMATX_HWID⟩,
      ⟨0, 24, -1, 0, SUNMATX_HWID⟩]⟩,
  ⟨VENID_MATRIX, DEVID_M_SERIAL, SUBVENID_MATRIX, SUBDEVID_P1008, 8, 0, 1, 0x00,
    BOARDFLAG_NONE, PART_NUMBER_NONE, CARD_TYPE_UART_ONLY, GPIO_NONE, [
      ⟨0, 0, -1, 0, SUNMATX_HWID⟩, ⟨0, 8, -1, 0, SUNMATX_HWID⟩, ⟨0, 16, -1, 0, SUNMATX_HWID⟩,
      ⟨0, 24, -1, 0, SUNMATX_HWID⟩, ⟨0, 32, -1, 0, SUNMATX_HWID⟩, ⟨0, 40, -1, 0, SUNMATX_HWID⟩,
      ⟨0, 48, -1, 0, SUNMATX_HWID⟩, ⟨0, 56, -1, 0, SUNMATX_HWID⟩]⟩,
  ⟨VENID_MATRIX, DEVID_M_SERIAL, SUBVENID_MATRIX, SUBDEVID_P1016, 16, 0, 1, 0x00,
    BOARDFLAG_NONE ||| BOARDFLAG_16PORTS, PART_NUMBER_NONE, CARD_TYPE_UART_ONLY, GPIO_NONE, [
      ⟨0, 0, -1, 0, SUNMATX_HWID⟩, ⟨0, 8, -1, 0, SUNMATX_HWID⟩, ⟨0, 16, -1, 0, SUNMATX_HWID⟩,
      ⟨0, 24, -1, 0, SUNMATX_HWID⟩, ⟨0, 32, -1, 0, SUNMATX_HWID⟩, ⟨0, 40, -1, 0, SUNMATX_HWID⟩,
      ⟨0, 48, -1, 0, SUNMATX_HWID⟩, ⟨0, 56, -1, 0, SUNMATX_HWID⟩, ⟨0, 64, -1, 0, SUNMATX_HWID⟩,
      ⟨0, 72, -1, 0, SUNMATX_HWID⟩, ⟨0, 80, -1, 0, SUNMATX_HWID⟩, ⟨0, 88, -1, 0, SUNMATX_HWID⟩,
      ⟨0, 96, -1, 0, SUNMATX_HWID⟩, ⟨0, 104, -1, 0, SUNMATX_HWID⟩, ⟨0, 112, -1, 0, SUNMATX_HWID⟩,
      ⟨0, 120, -1, 0, SUNMATX_HWID⟩]⟩,
  ⟨VENID_MATRIX, DEVID_M_SERIAL, SUBVENID_MATRIX, SUBDEVID_P2002, 2, 0, 1, 0x00,
    BOARDFLAG_NONE, PART_NUMBER_NONE, CARD_TYPE_UART_ONLY, GPIO_NONE, [
      ⟨0, 0, -1, 0, SUNMATX_HWID⟩, ⟨0, 8, -1, 0, SUNMATX_HWID⟩]⟩,
  ⟨VENID_MATRIX, DEVID_M_SERIAL, SUBVENID_MATRIX, SUBDEVID_P2004, 4, 0, 1, 0x00,
    BOARDFLAG_NONE, PART_NUMBER_NONE, CARD_TYPE_UART_ONLY, GPIO_NONE, [
      ⟨0, 0, -1, 0, SUNMATX_HWID⟩, ⟨0, 8, -1, 0, SUNMATX_HWID⟩, ⟨0, 16, -1, 0, SUNMATX_HWID⟩,
      ⟨0, 24, -1, 0, SUNMATX_HWID⟩]⟩,
  ⟨VENID_MATRIX, DEVID_M_SERIAL, SUBVENID_MATRIX, SUBDEVID_P2008, 8, 0, 1, 0x00,
    BOARDFLAG_NONE, PART_NUMBER_NONE, CARD_TYPE_UART_ONLY, GPIO_NONE, [
      ⟨0, 0, -1, 0, SUNMATX_HWID⟩, ⟨0, 8, -1, 0, SUNMATX_HWID⟩, ⟨0, 16, -1, 0, SUNMATX_HWID⟩,
      ⟨0, 24, -1, 0, SUNMATX_HWID⟩, ⟨0, 32, -1, 0, SUNMATX_HWID⟩, ⟨0, 40, -1, 0, SUNMATX_HWID⟩,
      ⟨0, 48, -1, 0, SUNMATX_HWID⟩, ⟨0, 56, -1, 0, SUNMATX_HWID⟩]⟩,
  ⟨VENID_MATRIX, DEVID_M_SERIAL, SUBVENID_MATRIX, SUBDEVID_P3002, 2, 0, 1, 0x00,
    BOARDFLAG_NONE, PART_NUMBER_NONE, CARD_TYPE_UART_ONLY, GPIO_NONE, [
      ⟨0, 0, -1, 0, SUNMATX_HWID⟩, ⟨0, 8, -1, 0, SUNMATX_HWID⟩]⟩,
  ⟨VENID_MATRIX, DEVID_M_SERIAL, SUBVENID_MATRIX, SUBDEVID_P3004, 4, 0, 1, 0x00,
    BOARDFLAG_NONE, PART_NUMBER_NONE, CARD_TYPE_UART_ONLY, GPIO_NONE, [
      ⟨0, 0, -1, 0, SUNMATX_HWID⟩, ⟨0, 8, -1, 0, SUNMATX_HWID⟩, ⟨0, 16, -1, 0, SUNMATX_HWID⟩,
      ⟨0, 24, -1, 0, SUNMATX_HWID⟩]⟩,
  ⟨VENID_MATRIX, DEVID_M_SERIAL, SUBVENID_MATRIX, SUBDEVID_P3008, 8, 0, 1, 0x00,
    BOARDFLAG_NONE, PART_NUMBER_NONE, CARD_TYPE_UART_ONLY, GPIO_NONE, [
      ⟨0, 0, -1, 0, SUNMATX_HWID⟩, ⟨0, 8, -1, 0, SUNMATX_HWID⟩, ⟨0, 16, -1, 0, SUNMATX_HWID⟩,
      ⟨0, 24, -1, 0, SUNMATX_HWID⟩, ⟨0, 32, -1, 0, SUNMATX_HWID⟩, ⟨0, 40, -1, 0, SUNMATX_HWID⟩,
      ⟨0, 48, -1, 0, SUNMATX_HWID⟩, ⟨0, 56, -1, 0, SUNMATX_HWID⟩]⟩,
  ⟨VENID_SUN1999, DEVID_S_SERIAL, SUBVENID_SUN1999, SUBDEVID_5027A, 1, 0, 3, 0x00,
    BOARDFLAG_NONE, 0x01, CARD_TYPE_UART_ONLY, GPIO_NONE, [
      ⟨0, 0, -1, 0, SUN1999_HWID⟩]⟩,
  ⟨VENID_SUN1999, DEVID_S_SERIAL, SUBVENID_SUN1999, SUBDEVID_5037A, 2, 0, 3, 0x00,
    BOARDFLAG_NONE, 0x02, CARD_TYPE_UART_ONLY, GPIO_NONE, [
      ⟨0, 0, -1, 0, SUN1999_HWID⟩, ⟨0, 8, -1, 0, SUN1999_HWID⟩]⟩,
  ⟨VENID_SUN1999, DEVID_S_SERIAL, SUBVENID_SUN1999, SUBDEVID_5056A, 4, 0, 3, 0x00,
    BOARDFLAG_NONE, 0x04, CARD_TYPE_UART_ONLY, GPIO_NONE, [
      ⟨0, 0, -1, 0, SUN1999_HWID⟩, ⟨0, 8, -1, 0, SUN1999_HWID⟩, ⟨0, 16, -1, 0, SUN1999_HWID⟩,
      ⟨0, 24, -1, 0, SUN1999_HWID⟩]⟩,
  ⟨VENID_SUN1999, DEVID_S_SERIAL, SUBVENID_SUN1999, SUBDEVID_5066A, 8, 0, 3, 0x00,
    BOARDFLAG_NONE, 0x08, CARD_TYPE_UART_ONLY, GPIO_NONE, [
      ⟨0, 0, -1, 0, SUN1999_HWID⟩, ⟨0, 8, -1, 0, SUN1999_HWID⟩, ⟨0, 16, -1, 0, SUN1999_HWID⟩,
      ⟨0, 24, -1, 0, SUN1999_HWID⟩, ⟨1, 0, -1, 0, SUN1999_HWID⟩, ⟨1, 8, -1, 0, SUN1999_HWID⟩,
      ⟨1, 16, -1, 0, SUN1999_HWID⟩, ⟨1, 24, -1, 0, SUN1999_HWID⟩]⟩,
  ⟨VENID_SUN1999, DEVID_S_SERIAL, SUBVENID_SUN1999, SUBDEVID_5016A, 16, 0, 3, 0x00,
    BOARDFLAG_NONE ||| BOARDFLAG_16PORTS, 0x10, CARD_TYPE_UART_ONLY, GPIO_NONE, [
      ⟨0, 0, -1, 0, SUN1999_HWID⟩, ⟨0, 8, -1, 0, SUN1999_HWID⟩, ⟨0, 16, -1, 0, SUN1999_HWID⟩,
      ⟨0, 24, -1, 0, SUN1999_HWID⟩, ⟨1, 0, -1, 0, SUN1999_HWID⟩, ⟨1, 8, -1, 0, SUN1999_HWID⟩,
      ⟨1, 16, -1, 0, SUN1999_HWID⟩, ⟨1, 24, -1, 0, SUN1999_HWID⟩, ⟨1, 64, -1, 0, SUN1999_HWID⟩,
      ⟨1, 72, -1, 0, SUN1999_HWID⟩, ⟨1, 80, -1, 0, SUN1999_HWID⟩, ⟨1, 88, -1, 0, SUN1999_HWID⟩,
      ⟨1, 128, -1, 0, SUN1999_HWID⟩, ⟨1, 136, -1, 0, SUN1999_HWID⟩,
      ⟨1, 144, -1, 0, SUN1999_HWID⟩, ⟨1, 152, -1, 0, SUN1999_HWID⟩]⟩,
  ⟨VENID_SUN1999, DEVID_S_SERIAL, SUBVENID_SUN1999, SUBDEVID_5069A, 1, 1, 3, 0x00,
    BOARDFLAG_NONE, 0x01, 0x00, GPIO_NONE, [
      ⟨0, 0, -1, 0, SUN1999_HWID⟩, ⟨1, 0, 2, 0, SUN1999_HWID⟩]⟩,
  ⟨VENID_SUN1999, DEVID_S_SERIAL, SUBVENID_SUN1999, SUBDEVID_5079A, 2, 1, 3, 0x00,
    BOARDFLAG_NONE, 0x02, 0x00, GPIO_NONE, [
      ⟨0, 0, -1, 0, SUN1999_HWID⟩, ⟨0, 8, -1, 0, SUN1999_HWID⟩, ⟨1, 0, 2, 0, SUN1999_HWID⟩]⟩,
  ⟨VENID_SUN1999, DEVID_S_SERIAL, SUBVENID_SUN1999, SUBDEVID_5099A, 4, 1, 3, 0x00,
    BOARDFLAG_NONE, 0x04, 0x00, GPIO_NONE, [
      ⟨0, 0, -1, 0, SUN1999_HWID⟩, ⟨0, 8, -1, 0, SUN1999_HWID⟩, ⟨0, 16, -1, 0, SUN1999_HWID⟩,
      ⟨0, 24, -1, 0, SUN1999_HWID⟩, ⟨1, 0, 2, 0, SUN1999_HWID⟩]⟩,
  ⟨VENID_SUN1999, DEVID_S_PARALL, SUBVENID_SUN1999, SUBDEVID_5008A, 0, 1, 0, 0x00,
    BOARDFLAG_NONE, 0x00, 0x00, GPIO_NONE, [
      ⟨1, 0, 2, 0, SUN1999_HWID⟩]⟩,
  ⟨VENID_SUN1999, DEVID_S_SERIAL, SUBVENID_SUN1999, SUBDEVID_P2102, 2, 0, 3, 0x00,
    BOARDFLAG_NONE, 0x42, CARD_TYPE_UART_ONLY, GPIO_NONE, [
      ⟨0, 0, -1, 0, SUN1999_HWID⟩, ⟨0, 8, -1, 0, SUN1999_HWID⟩]⟩,
  ⟨VENID_SUN1999, DEVID_S_SERIAL, SUBVENID_SUN1999, SUBDEVID_P2104, 4, 0, 3, 0x00,
    BOARDFLAG_NONE, 0x44, CARD_TYPE_UART_ONLY, GPIO_NONE, [
      ⟨0, 0, -1, 0, SUN1999_HWID⟩, ⟨0, 8, -1, 0, SUN1999_HWID⟩, ⟨0, 16, -1, 0, SUN1999_HWID⟩,
      ⟨0, 24, -1, 0, SUN1999_HWID⟩]⟩,
  ⟨VENID_SUN1999, DEVID_S_SERIAL, SUBVENID_SUN1999, SUBDEVID_P2108, 8, 0, 3, 0x00,
    BOARDFLAG_NONE, 0x48, CARD_TYPE_UART_ONLY, GPIO_NONE, [
      ⟨0, 0, -1, 0, SUN1999_HWID⟩, ⟨0, 8, -1, 0, SUN1999_HWID⟩, ⟨0, 16, -1, 0, SUN1999_HWID⟩,
      ⟨0, 24, -1, 0, SUN1999_HWID⟩, ⟨1, 0, -1, 0, SUN1999_HWID⟩, ⟨1, 8, -1, 0, SUN1999_HWID⟩,
      ⟨1, 16, -1, 0, SUN1999_HWID⟩, ⟨1, 24, -1, 0, SUN1999_HWID⟩]⟩,
  ⟨VENID_SUN1999, DEVID_S_SERIAL, SUBVENID_SUN1999, SUBDEVID_P2116, 16, 0, 3, 0x00,
    BOARDFLAG_NONE ||| BOARDFLAG_16PORTS, 0x50, CARD_TYPE_UART_ONLY, GPIO_NONE, [
      ⟨0, 0, -1, 0, SUN1999_HWID⟩, ⟨0, 8, -1, 0, SUN1999_HWID⟩, ⟨0, 16, -1, 0, SUN1999_HWID⟩,
      ⟨0, 24, -1, 0, SUN1999_HWID⟩, ⟨1, 0, -1, 0, SUN1999_HWID⟩, ⟨1, 8, -1, 0, SUN1999_HWID⟩,
      ⟨1, 16, -1, 0, SUN1999_HWID⟩, ⟨1, 24, -1, 0, SUN1999_HWID⟩, ⟨1, 64, -1, 0, SUN1999_HWID⟩,
      ⟨1, 72, -1, 0, SUN1999_HWID⟩, ⟨1, 80, -1, 0, SUN1999_HWID⟩, ⟨1, 88, -1, 0, SUN1999_HWID⟩,
      ⟨1, 128, -1, 0, SUN1999_HWID⟩, ⟨1, 136, -1, 0, SUN1999_HWID⟩,
      ⟨1, 144, -1, 0, SUN1999_HWID⟩, ⟨1, 152, -1, 0, SUN1999_HWID⟩]⟩,
  ⟨VENID_SUN1999, DEVID_S_SERIAL, SUBVENID_SUN1999, SUBDEVID_P3104, 4, 0, 3, 0x00,
    BOARDFLAG_NONE, 0x84, 0x00, GPIO_NONE, [
      ⟨0, 0, -1, 0, SUN1999_HWID⟩, ⟨0, 8, -1, 0, SUN1999_HWID⟩, ⟨0, 16, -1, 0, SUN1999_HWID⟩,
      ⟨0, 24, -1, 0, SUN1999_HWID⟩]⟩,
  ⟨VENID_SUN1999, DEVID_S_SERIAL, SUBVENID_SUN1999, SUBDEVID_P3108, 8, 0, 3, 0x00,
    BOARDFLAG_NONE, 0x88, 0x00, GPIO_NONE, [
      ⟨0, 0, -1, 0, SUN1999_HWID⟩, ⟨0, 8, -1, 0, SUN1999_HWID⟩, ⟨0, 16, -1, 0, SUN1999_HWID⟩,
      ⟨0, 24, -1, 0, SUN1999_HWID⟩, ⟨1, 0, -1, 0, SUN1999_HWID⟩, ⟨1, 8, -1, 0, SUN1999_HWID⟩,
      ⟨1, 16, -1, 0, SUN1999_HWID⟩, ⟨1, 24, -1, 0, SUN1999_HWID⟩]⟩,
  ⟨VENID_SUN1999, DEVID_S_SERIAL, SUBVENID_SUN1999, SUBDEVID_CASH_2S, 2, 0, 3, 0x00,
    BOARDFLAG_NONE, 0x02, CARD_TYPE_UART_GINTR, INTR_GPIO_6PORT, [
      ⟨0, 0, -1, 0, SUN1999_HWID⟩, ⟨0, 8, -1, 0, SUN1999_HWID⟩]⟩,
  ⟨VENID_SUN1999, DEVID_S_SERIAL, SUBVENID_SUN1999, SUBDEVID_CASH_4S, 4, 0, 3, 0x00,
    BOARDFLAG_NONE, 0x04, CARD_TYPE_UART_GINTR, INTR_GPIO_6PORT, [
      ⟨0, 0, -1, 0, SUN1999_HWID⟩, ⟨0, 8, -1, 0, SUN1999_HWID⟩, ⟨0, 16, -1, 0, SUN1999_HWID⟩,
      ⟨0, 24, -1, 0, SUN1999_HWID⟩]⟩,
  ⟨VENID_SUN1999, DEVID_S_SERIAL, SUBVENID_SUN1999, SUBDEVID_DIO0802, 2, 0, 3, 0x00,
    BOARDFLAG_NONE, 0x02, CARD_TYPE_UART_GEXTR, EXTR_GPIO_8PORT, [
      ⟨0, 0, -1, 0, SUN1999_HWID⟩, ⟨0, 8, -1, 0, SUN1999_HWID⟩]⟩,
  ⟨VENID_SUN1999, DEVID_S_SERIAL, SUBVENID_SUN1999, SUBDEVID_DIO1604, 4, 0, 3, 0x00,
    BOARDFLAG_NONE, 0x04, CARD_TYPE_UART_GEXTR, EXTR_GPIO_16PORT, [
      ⟨0, 0, -1, 0, SUN1999_HWID⟩, ⟨0, 8, -1, 0, SUN1999_HWID⟩, ⟨0, 16, -1, 0, SUN1999_HWID⟩,
      ⟨0, 24, -1, 0, SUN1999_HWID⟩]⟩,
  ⟨VENID_SUN1999, DEVID_S_SERIAL, SUBVENID_SUN1999, SUBDEVID_DIO3204, 4, 0, 3, 0x00,
    BOARDFLAG_NONE, 0x04, CARD_TYPE_UART_GEXTR, EXTR_GPIO_32PORT, [
      ⟨0, 0, -1, 0, SUN1999_HWID⟩, ⟨0, 8, -1, 0, SUN1999_HWID⟩, ⟨0, 16, -1, 0, SUN1999_HWID⟩,
      ⟨0, 24, -1, 0, SUN1999_HWID⟩]⟩]

/-- A row of `sunix_pci_board_id`.  `driver_data` is one of the enumerators from
`GOLDEN_BOARD_TEST = 0` on; the match on any class is left out. -/
structure PciDeviceId where
  vendor : U32
  device : U32
  subvendor : U32
  subdevice : U32
  driver_data : ℕ
deriving DecidableEq, Repr

/-- `sunix_pci_board_id`, less the empty row that ends it. -/
def sunixPciBoardId : List PciDeviceId := [
  ⟨VENID_GOLDEN, DEVID_G_SERIAL, SUBVENID_GOLDEN, SUBDEVID_TEST, 0⟩,
  ⟨VENID_GOLDEN, DEVID_G_SERIAL, SUBVENID_GOLDEN, SUBDEVID_4027A, 1⟩,
  ⟨VENID_GOLDEN, DEVID_G_SERIAL, SUBVENID_GOLDEN, SUBDEVID_4027D, 2⟩,
  ⟨VENID_GOLDEN, DEVID_G_SERIAL, SUBVENID_GOLDEN, SUBDEVID_4037A, 3⟩,
  ⟨VENID_GOLDEN, DEVID_G_SERIAL, SUBVENID_GOLDEN, SUBDEVID_4037D, 4⟩,
  ⟨VENID_GOLDEN, DEVID_G_SERIAL, SUBVENID_GOLDEN, SUBDEVID_4036A3V, 5⟩,
  ⟨VENID_GOLDEN, DEVID_G_SERIAL, SUBVENID_GOLDEN, SUBDEVID_4056A, 6⟩,
  ⟨VENID_GOLDEN, DEVID_G_SERIAL, SUBVENID_GOLDEN, SUBDEVID_4056D, 7⟩,
  ⟨VENID_GOLDEN, DEVID_G_SERIAL, SUBVENID_GOLDEN, SUBDEVID_4056DW, 8⟩,
  ⟨VENID_GOLDEN, DEVID_G_SERIAL, SUBVENID_GOLDEN, SUBDEVID_4066A, 9⟩,
  ⟨VENID_GOLDEN, DEVID_G_SERIAL, SUBVENID_GOLDEN, SUBDEVID_4066R, 10⟩,
  ⟨VENID_GOLDEN, DEVID_G_SERIAL, SUBVENID_GOLDEN, SUBDEVID_8139, 11⟩,
  ⟨VENID_GOLDEN, DEVID_G_SERIAL, SUBVENID_GOLDEN, SUBDEVID_8139S, 12⟩,
  ⟨VENID_GOLDEN, DEVID_G_SERIAL, SUBVENID_GOLDEN, SUBDEVID_8159, 13⟩,
  ⟨VENID_GOLDEN, DEVID_G_SERIAL, SUBVENID_GOLDEN, SUBDEVID_8159S, 14⟩,
  ⟨VENID_GOLDEN, DEVID_G_SERIAL, SUBVENID_GOLDEN, SUBDEVID_8169, 15⟩,
  ⟨VENID_GOLDEN, DEVID_G_SERIAL, SUBVENID_GOLDEN, SUBDEVID_8169S, 16⟩,
  ⟨VENID_GOLDEN, DEVID_G_SERIAL, SUBVENID_GOLDEN, SUBDEVID_4079A, 17⟩,
  ⟨VENID_GOLDEN, DEVID_G_SERIAL, SUBVENID_GOLDEN, SUBDEVID_4089A, 18⟩,
  ⟨VENID_GOLDEN, DEVID_G_SERIAL, SUBVENID_GOLDEN, SUBDEVID_4096A, 19⟩,
  ⟨VENID_MATRIX, DEVID_M_SERIAL, SUBVENID_MATRIX, SUBDEVID_P1002, 20⟩,
  ⟨VENID_MATRIX, DEVID_M_SERIAL, SUBVENID_MATRIX, SUBDEVID_P1004, 21⟩,
  ⟨VENID_MATRIX, DEVID_M_SERIAL, SUBVENID_MATRIX, SUBDEVID_P1008, 22⟩,
  ⟨VENID_MATRIX, DEVID_M_SERIAL, SUBVENID_MATRIX, SUBDEVID_P1016, 23⟩,
  ⟨VENID_MATRIX, DEVID_M_SERIAL, SUBVENID_MATRIX, SUBDEVID_P2002, 24⟩,
  ⟨VENID_MATRIX, DEVID_M_SERIAL, SUBVENID_MATRIX, SUBDEVID_P2004, 25⟩,
  ⟨VENID_MATRIX, DEVID_M_SERIAL, SUBVENID_MATRIX, SUBDEVID_P2008, 26⟩,
  ⟨VENID_MATRIX, DEVID_M_SERIAL, SUBVENID_MATRIX, SUBDEVID_P3002, 27⟩,
  ⟨VENID_MATRIX, DEVID_M_SERIAL, SUBVENID_MATRIX, SUBDEVID_P3004, 28⟩,
  ⟨VENID_MATRIX, DEVID_M_SERIAL, SUBVENID_MATRIX, SUBDEVID_P3008, 29⟩,
  ⟨VENID_SUN1999, DEVID_S_SERIAL, SUBVENID_SUN1999, SUBDEVID_5027A, 30⟩,
  ⟨VENID_SUN1999, DEVID_S_SERIAL, SUBVENID_SUN1999, SUBDEVID_5037A, 31⟩,
  ⟨VENID_SUN1999, DEVID_S_SERIAL, SUBVENID_SUN1999, SUBDEVID_5056A, 32⟩,
  ⟨VENID_SUN1999, DEVID_S_SERIAL, SUBVENID_SUN1999, SUBDEVID_5066A, 33⟩,
  ⟨VENID_SUN1999, DEVID_S_SERIAL, SUBVENID_SUN1999, SUBDEVID_5016A, 34⟩,
  ⟨VENID_SUN1999, DEVID_S_SERIAL, SUBVENID_SUN1999, SUBDEVID_5069A, 35⟩,
  ⟨VENID_SUN1999, DEVID_S_SERIAL, SUBVENID_SUN1999, SUBDEVID_5079A, 36⟩,
  ⟨VENID_SUN1999, DEVID_S_SERIAL, SUBVENID_SUN1999, SUBDEVID_5099A, 37⟩,
  ⟨VENID_SUN1999, DEVID_S_PARALL, SUBVENID_SUN1999, SUBDEVID_5008A, 38⟩,
  ⟨VENID_SUN1999, DEVID_S_SERIAL, SUBVENID_SUN1999, SUBDEVID_P2102, 39⟩,
  ⟨VENID_SUN1999, DEVID_S_SERIAL, SUBVENID_SUN1999, SUBDEVID_P2104, 40⟩,
  ⟨VENID_SUN1999, DEVID_S_SERIAL, SUBVENID_SUN1999, SUBDEVID_P2108, 41⟩,
  ⟨VENID_SUN1999, DEVID_S_SERIAL, SUBVENID_SUN1999, SUBDEVID_P2116, 42⟩,
  ⟨VENID_SUN1999, DEVID_S_SERIAL, SUBVENID_SUN1999, SUBDEVID_P3104, 43⟩,
  ⟨VENID_SUN1999, DEVID_S_SERIAL, SUBVENID_SUN1999, SUBDEVID_P3108, 44⟩,
  ⟨VENID_SUN1999, DEVID_S_SERIAL, SUBVENID_SUN1999, SUBDEVID_CASH_2S, 45⟩,
  ⟨VENID_SUN1999, DEVID_S_SERIAL, SUBVENID_SUN1999, SUBDEVID_CASH_4S, 46⟩,
  ⟨VENID_SUN1999, DEVID_S_SERIAL, SUBVENID_SUN1999, SUBDEVID_DIO0802, 47⟩,
  ⟨VENID_SUN1999, DEVID_S_SERIAL, SUBVENID_SUN1999, SUBDEVID_DIO1604, 48⟩,
  ⟨VENID_SUN1999, DEVID_S_SERIAL, SUBVENID_SUN1999, SUBDEVID_DIO3204, 49⟩]

/-- The two tables agree row by row, and the enumerators number the rows. -/
theorem boardId_eq_conf : sunixPciBoardId = snxPciBoardConf.zipIdx.map fun (row, i) =>
    ⟨row.vendor_id, row.device_id, row.sub_vendor_id, row.sub_device_id, i⟩ := by
  decide

end SunixPci.Board
