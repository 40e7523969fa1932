import UsbCan.Protocol.ParserContract
import UsbCan.Stream.Reference
import UsbCan.Adapters.Canonical
import UsbCan.Adapters.AsConduit
import UsbCan.Interfaces.ZencanBusContract
import UsbCan.StepMotor.CanBus
import UsbCan.StepMotor.CommandReading
import UsbCan.StepMotor.Demo
