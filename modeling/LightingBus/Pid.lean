/-!
# Parameter identifiers

The numbers of the parameters that every device may have, and the numbers of the root device and of
the sub-devices.
-/

namespace LightingBus

namespace Pid

def discUniqueBranch : UInt16 := 0x0001
def discMute : UInt16 := 0x0002
def discUnMute : UInt16 := 0x0003
def queuedMessage : UInt16 := 0x0020
def statusMessages : UInt16 := 0x0030
def supportedParameters : UInt16 := 0x0050
def parameterDescription : UInt16 := 0x0051
def deviceInfo : UInt16 := 0x0060
def deviceModelDescription : UInt16 := 0x0080
def manufacturerLabel : UInt16 := 0x0081
def deviceLabel : UInt16 := 0x0082
def softwareVersionLabel : UInt16 := 0x00C0
def dmxPersonality : UInt16 := 0x00E0
def dmxPersonalityDescription : UInt16 := 0x00E1
def dmxStartAddress : UInt16 := 0x00F0
def sensorDefinition : UInt16 := 0x0200
def sensorValue : UInt16 := 0x0201
def recordSensors : UInt16 := 0x0202
def identifyDevice : UInt16 := 0x1000
def resetDevice : UInt16 := 0x1001

end Pid

namespace SubDevice

/-- The device itself. -/
def root : UInt16 := 0x0000

/-- The highest number of a sub-device. -/
def last : UInt16 := 0x0200

/-- Addresses every sub-device at once. -/
def every : UInt16 := 0xFFFF

end SubDevice

end LightingBus
